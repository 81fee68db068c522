import TokenGrammar.Text.Cluster.Part
/-!
Clusters: the characters that a reader takes for one, as the Unicode standard joins them (extended
grapheme clusters). What stands before a place is given backwards.
-/

namespace TokenGrammar

namespace Text

namespace ClusterPart

def isControl (part : ClusterPart) : Bool :=
  part = .carriageReturn || part = .lineFeed || part = .control

def isFollower (part : ClusterPart) : Bool :=
  part = .extender || part = .joiner || part = .spacing

def isSyllable : ClusterPart → ClusterPart → Bool
  | .leading, .leading | .leading, .vowel | .leading, .openSyllable | .leading, .closedSyllable => true
  | .vowel, .vowel | .vowel, .trailing | .openSyllable, .vowel | .openSyllable, .trailing => true
  | .closedSyllable, .trailing | .trailing, .trailing => true
  | _, _ => false

end ClusterPart

def isRegional (character : Char) : Bool := clusterPart character = .regional

def isExtender (character : Char) : Bool := clusterPart character = .extender

def isConjunctSign (character : Char) : Bool :=
  character ≠ '\u200c' && (isExtender character || clusterPart character = .joiner)

def opensConjunct (before : List Char) : Bool :=
  (before.takeWhile isConjunctSign).any linkers.contains &&
    ((before.dropWhile isConjunctSign).head?.map clusterPart = some .consonant)

def opensSequence : List Char → Bool
  | [] => false
  | last :: before =>
      clusterPart last = .joiner &&
        ((before.dropWhile isExtender).head?.map clusterPart = some .pictograph)

def opensFlag (before : List Char) : Bool := (before.takeWhile isRegional).length % 2 = 1

def continues (before : List Char) (next : Char) : Bool :=
  match before.head?.map clusterPart, clusterPart next with
  | none, _ => false
  | some .carriageReturn, .lineFeed => true
  | some last, part =>
      !last.isControl && !part.isControl &&
        (part.isFollower || last = .prepended || last.isSyllable part ||
          (part = .consonant && opensConjunct before) ||
          (part = .pictograph && opensSequence before) ||
          (part = .regional && opensFlag before))

def clustersAfter (before : List Char) : List Char → List (List Char)
  | [] => []
  | character :: rest =>
      match clustersAfter (character :: before) rest with
      | cluster@(next :: _) :: others =>
          if continues (character :: before) next then (character :: cluster) :: others
          else [character] :: cluster :: others
      | others => [character] :: others

def clusters (text : List Char) : List (List Char) := clustersAfter [] text

end Text

end TokenGrammar

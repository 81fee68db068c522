import TokenGrammar.Text.Bytes
import TokenGrammar.Text.Cluster
/-!
Erasing at the prompt: a backspace takes the cluster before it off the text. The size of a cluster is
kept in one byte, so of a cluster with 256 bytes or more only the remainder is taken off.
-/

namespace TokenGrammar

structure Erasure where
  kept : List Char
  sizes : List UInt8

namespace Erasure

def backspace : Char := '\x08'

def empty : Erasure := ⟨[], []⟩

def append (erasure : Erasure) (cluster : List Char) : Erasure :=
  ⟨cluster.reverse ++ erasure.kept, UInt8.ofNat (Text.byteSize cluster) :: erasure.sizes⟩

/-- Takes the last cluster off; nothing comes of it if that would split a character. -/
def back? (erasure : Erasure) : Option Erasure :=
  match erasure.sizes with
  | [] => some erasure
  | size :: sizes => (Text.without? size.toNat erasure.kept).map fun kept => ⟨kept, sizes⟩

def take? (erasure : Erasure) (cluster : List Char) : Option Erasure :=
  if cluster = [backspace] then erasure.back? else some (erasure.append cluster)

def erase? (text : List Char) : Option (List Char) :=
  ((Text.clusters text).foldlM take? empty).map fun erasure => erasure.kept.reverse

end Erasure

end TokenGrammar

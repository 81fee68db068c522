import TokenGrammar.Files.Tree
import TokenGrammar.Main
import TokenGrammar.Proofs.Reading.Image
import TokenGrammar.Proofs.Registry.Extension
import TokenGrammar.Proofs.Registry.Regrouping
import TokenGrammar.Proofs.Registry.Watching
import TokenGrammar.Proofs.Session.Order
import TokenGrammar.Proofs.Form.Cutting
import TokenGrammar.Proofs.Form.WellFormed
import TokenGrammar.Proofs.Binary64.Numeral
import TokenGrammar.Proofs.Prompt.Settled
import TokenGrammar.Proofs.Reading.Places
import TokenGrammar.Proofs.Reading.Reprinting
import TokenGrammar.Proofs.Reading.Unfinished
import TokenGrammar.Proofs.Matcher.Greedy
import TokenGrammar.Proofs.Predicate.Substitution
import TokenGrammar.Proofs.Bindings.Order
import TokenGrammar.Proofs.Predicate.Arithmetic
import TokenGrammar.Proofs.Registry.Registration
import TokenGrammar.Proofs.Matcher.Spelling
import TokenGrammar.Proofs.Reading.Integers
import TokenGrammar.Proofs.Prompt.Completion
import TokenGrammar.Proofs.Prompt.Defining
import TokenGrammar.Proofs.Registry.Chunking
import TokenGrammar.Proofs.Reading.Calls

import CheckpointRelay.Text.Search
import CheckpointRelay.Text.Utf8
import CheckpointRelay.Unicode.Composition
import CheckpointRelay.Unicode.Direction
import CheckpointRelay.Unicode.Joining
import CheckpointRelay.Unicode.Mark
import CheckpointRelay.Unicode.NameMapping
import CheckpointRelay.Url.Punycode

/-!
# Names of hosts

A name is looked up in ASCII. Its characters are put in their canonical form first; then each label between full stops
that holds others than those of ASCII is written with the digits of `Punycode`. A label that comes so written has to be
in canonical form itself.
-/

namespace CheckpointRelay.Name

open Text

/-- Whether a text is in ASCII. -/
def isAscii (cs : List Char) : Bool :=
  cs.all (·.toNat < 0x80)

/-- The canonical form of characters of a name, unless there is one that no name holds. -/
def canonical? (cs : List Char) : Option (List Char) :=
  (cs.mapM Unicode.mapped?).map fun images => Unicode.compose images.flatten

/-- What a written label starts with. -/
def writtenMark : List Char :=
  "xn--".toList

/-- How long a written label may be, behind its mark. -/
def writtenLimit : Nat :=
  2000

/-- How long a label may be that is to be written. -/
def labelLimit : Nat :=
  1000

/-- The label that is written in ASCII, which has to be in canonical form. Something other than ASCII was written, so no
dash is last. -/
def readWritten? (written : List Char) : Option (List Char) := do
  if !isAscii written ∨ written = [] ∨ written.getLast? = some '-' ∨ writtenLimit < written.length then none
  let label ← Punycode.decode written
  if canonical? label = some label then some label else none

/-- The label that a label of a name stands for: one that is written is read. -/
def label? (label : List Char) : Option (List Char) :=
  if writtenMark.isPrefixOf label then readWritten? (label.drop writtenMark.length) else some label

/-- Whether a label may stand in a name beside any others. -/
def isSound (label : List Char) : Bool :=
  !label.head?.any Unicode.isMark && Unicode.joinersStand label && (isAscii label || label.length ≤ labelLimit)

/-- A label in ASCII. -/
def written (label : List Char) : List Char :=
  if isAscii label then label else writtenMark ++ Punycode.encode label

/-- A name in ASCII, unless it is no name. Characters of ASCII in its canonical form may not be forbidden. -/
def ascii? (isForbidden : Char → Bool) (octets : Bytes) : Option (List Char) := do
  let text ← (Utf8.decode octets).toOption
  let name ← canonical? text.toList
  if name.any isForbidden then none
  let labels ← (parts (· = '.') name).mapM label?
  if labels.all isSound && Unicode.labelsKeepOrder labels then
    some (List.intercalate ['.'] (labels.map written))
  else none

end CheckpointRelay.Name

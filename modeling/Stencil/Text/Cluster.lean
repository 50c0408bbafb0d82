import Stencil.Text.ClusterMarks
import Stencil.Text.Letter

/-! Clusters: the runs of characters that a reader sees as one.

A mark stays with the letter before it, the parts of a Korean syllable with each other, flags are
pairs of letters, and a joiner or a tone ties pictures together. -/

namespace Stencil.Text

/-- What a character does to the seams beside it. -/
inductive ClusterClass where
  | carriageReturn
  | lineFeed
  | control
  | extend
  | joiner
  | regional
  | prepend
  | spacing
  /-- The first consonant of a Korean syllable. -/
  | leading
  | vowel
  | trailing
  /-- A Korean syllable without its last consonant. -/
  | openSyllable
  | closedSyllable
  | gesture
  | tone
  | glue
  /-- A picture of a person, which takes a tone and can be tied by a joiner. -/
  | person
  | other
deriving DecidableEq, Repr

/-- The class of a character. -/
def clusterClass (c : Char) : ClusterClass :=
  let n := c.toNat
  let within (first last : Nat) : Bool := first ≤ n && n ≤ last
  if n = 13 then .carriageReturn
  else if n = 10 then .lineFeed
  else if isAscii c then (if n < 32 || n = 127 then .control else .other)
  else if n = 0x200d then .joiner
  else if within 0x1f1e6 0x1f1ff then .regional
  else if within 0x1f3fb 0x1f3ff then .tone
  else if within 0x1f466 0x1f469 then .person
  else if within 0x1100 0x115f || within 0xa960 0xa97c then .leading
  else if within 0x1160 0x11a7 || within 0xd7b0 0xd7c6 then .vowel
  else if within 0x11a8 0x11ff || within 0xd7cb 0xd7fb then .trailing
  else if within 0xac00 0xd7a3 then
    (if (n - 0xac00) % 28 = 0 then .openSyllable else .closedSyllable)
  else if onStride extendStrides c then .extend
  else if onStride spacingStrides c then .spacing
  else if onStride controlStrides c then .control
  else if onStride prependStrides c then .prepend
  else if onStride gestureStrides c then .gesture
  else if onStride glueStrides c then .glue
  else .other

/-- What the seam behind a character depends on. -/
structure Seam where
  last : ClusterClass
  /-- Whether the character is a picture that takes a tone, marks behind it aside. -/
  takesTone : Bool
  /-- Whether an odd number of regional letters ends here. -/
  isHalfFlag : Bool

/-- The seam behind a first character. -/
def Seam.start (c : ClusterClass) : Seam :=
  ⟨c, c = .gesture || c = .person, c = .regional⟩

/-- Whether the character behind a seam continues the cluster. -/
def Seam.joins (s : Seam) (next : ClusterClass) : Bool :=
  match s.last, next with
  | .carriageReturn, .lineFeed => true
  | .carriageReturn, _ | .lineFeed, _ | .control, _ => false
  | _, .carriageReturn | _, .lineFeed | _, .control => false
  | .leading, .leading | .leading, .vowel | .leading, .openSyllable | .leading, .closedSyllable =>
    true
  | .openSyllable, .vowel | .openSyllable, .trailing | .vowel, .vowel | .vowel, .trailing => true
  | .closedSyllable, .trailing | .trailing, .trailing => true
  | _, .extend | _, .joiner | _, .spacing => true
  | .prepend, _ => true
  | _, .tone => s.takesTone
  | .joiner, .glue | .joiner, .person => true
  | .regional, .regional => s.isHalfFlag
  | _, _ => false

/-- The seam behind the next character. -/
def Seam.next (s : Seam) (c : ClusterClass) : Seam :=
  ⟨c, c = .gesture || c = .person || (c = .extend && s.takesTone),
    c = .regional && !(s.last = .regional && s.isHalfFlag)⟩

/-- The clusters from a seam on; `cluster` is what the current one holds so far, backwards. -/
def clustersFrom (s : Seam) (cluster : List Char) : List Char → List (List Char)
  | [] => [cluster.reverse]
  | c :: rest =>
    let next := clusterClass c
    if s.joins next then clustersFrom (s.next next) (c :: cluster) rest
    else cluster.reverse :: clustersFrom (s.next next) [c] rest

/-- The clusters of a text. -/
def clusters (s : String) : List String :=
  match s.toList with
  | [] => []
  | c :: rest => (clustersFrom (.start (clusterClass c)) [c] rest).map String.ofList

end Stencil.Text

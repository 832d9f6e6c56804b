import SorobanDeploy.Text.Utf8

/-!
# Reading octets step by step

A reader takes one octet, sees those behind it, and says which characters stand there, how many
octets it takes, and what it goes on with. An ill-formed part counts once, however long it is. A
step takes at least one octet, so reading ends; a step that only looks at its octets one at a time
gives one part for each of them (`length_readAll`).
-/

namespace SorobanDeploy.Text.Charset

variable {σ : Type}

/-- What a reader makes of the octets at one place: the characters, with nothing for an ill-formed
part, the number of octets that it takes behind the first, and what it goes on with. -/
structure Step (σ : Type) where
  parts : List (Option Char)
  more : Nat
  next : σ
  deriving Repr

namespace Step

/-- One octet and `more` behind it are read as characters. -/
def text (cs : List Char) (more : Nat) (next : σ) : Step σ := ⟨cs.map some, more, next⟩

/-- One octet and `more` behind it are ill-formed together. -/
def ill (more : Nat) (next : σ) : Step σ := ⟨[none], more, next⟩

/-- One octet and `more` behind it are read as characters, if there are any for them. Otherwise the
octet is ill-formed, and the next one is read anew. -/
def ofText? (text? : Option (List Char)) (more : Nat) (next : σ) : Step σ :=
  match text? with
  | some cs => .text cs more next
  | none => .ill 0 next

end Step

/-- What reads octets, with what it goes on with between them. -/
abbrev Reader (σ : Type) := σ → UInt8 → Octets → Step σ

/-- The characters of octets, and nothing for each ill-formed part. -/
def readAll (r : Reader σ) : σ → Octets → List (Option Char)
  | _, [] => []
  | s, b :: bs =>
    let step := r s b bs
    step.parts ++ readAll r step.next (bs.drop step.more)
  termination_by _ bs => bs.length
  decreasing_by simp only [List.length_drop, List.length_cons]; omega

/-- What takes every octet by itself gives one part for each octet. -/
theorem length_readAll (r : Reader σ) (single : ∀ s b bs, (r s b bs).more = 0)
    (whole : ∀ s b bs, (r s b bs).parts.length = 1) (s : σ) (bs : Octets) :
    (readAll r s bs).length = bs.length := by
  induction bs generalizing s with
  | nil => simp [readAll]
  | cons b bs ih =>
    rw [readAll, List.length_append, whole, single, List.drop_zero, ih, List.length_cons,
      Nat.add_comm]

/-- A reader that goes on with nothing. -/
abbrev Stateless := UInt8 → Octets → Step Unit

/-- The characters of octets, and nothing for each ill-formed part. -/
def Stateless.parts (r : Stateless) (bs : Octets) : List (Option Char) :=
  readAll (fun _ => r) () bs

/-- The character with the number of an octet. -/
def plainChar (b : UInt8) : Char := Char.ofNat b.toNat

/-- The character of a code point. The half of a pair is none, and gives the replacement character.
-/
def charOf (n : Nat) : Char := if n.isValidChar then Char.ofNat n else '\uFFFD'

/-- Reads octets by themselves where they stand for something alone, and in twos elsewhere. The
first octet of two that stand for nothing is ill-formed. -/
def Stateless.onesAndTwos (one : Nat → Option Char) (two : Nat → Nat → Option (List Char)) :
    Stateless :=
  fun b rest =>
    match one b.toNat with
    | some c => .text [c] 0 ()
    | none => .ofText? (rest.head?.bind fun d => two b.toNat d.toNat) 1 ()

/-- The character of an octet that is ASCII. -/
def ascii? (n : Nat) : Option Char := if n < 0x80 then some (Char.ofNat n) else none

end SorobanDeploy.Text.Charset

import AsmLint.ReservedWord
import AsmLint.Text.Quoted

/-!
# Slots

A statement is judged by its shape, the number of its words. A supported shape has one slot for each
word, and a slot has a role and a rule that says which words it refuses:

* four words: label, mnemonic, register, memory;
* three words: label, mnemonic, memory;
* two words: label, mnemonic;
* one word: a mnemonic that stands alone.
-/

namespace AsmLint

/-! ### Roles -/

/-- What a slot of a statement is for; `shape` is the statement as a whole. -/
inductive Role where
  | label
  | mnemonic
  | register
  | memory
  | shape
deriving DecidableEq, Repr

namespace Role

def all : List Role := [label, mnemonic, register, memory, shape]

def name : Role → Text
  | label => "label"
  | mnemonic => "mnemonic"
  | register => "register"
  | memory => "memory"
  | shape => "shape"

/-- What is said of a word that may not have the role. -/
def message : Role → Text
  | label => "Invalid Symbolic Name"
  | mnemonic => "Invalid Mnemonic Instruction"
  | register => "Invalid Register Operand"
  | memory => "Invalid Symbolic Name (Memory Operand)"
  | shape => "Unsupported statement shape"

def ofName? (name : Text) : Option Role := all.find? (·.name = name)

end Role

structure UnknownRole where
  name : Text
deriving DecidableEq, Repr

def UnknownRole.message (e : UnknownRole) : Text := quoted e.name

/-- The role of a given name, or the complaint that there is none. -/
def Role.named (name : Text) : Except UnknownRole Role :=
  match Role.ofName? name with
  | some r => .ok r
  | none => .error ⟨name⟩

/-! ### Rules -/

/-- Which words may stand in a slot: where a list is given, only its words; and never a word of a
forbidden vocabulary. -/
structure WordRule where
  forbidden : List Vocabulary
  allowed : Option (List Text)
deriving DecidableEq, Repr

def WordRule.refuses (r : WordRule) (word : Text) : Bool :=
  r.allowed.any (!·.contains word) || Vocabulary.unionHas r.forbidden word

/-- A slot: the rule for the word in it, and its role. -/
structure Slot extends WordRule where
  role : Role
deriving DecidableEq, Repr

namespace Slot

/-- A label is no reserved word. -/
def label : Slot := ⟨⟨Vocabulary.all, none⟩, .label⟩

/-- A mnemonic is reserved only as an imperative statement. -/
def mnemonic : Slot :=
  ⟨⟨[.declarative, .directives, .conditions, .registers], none⟩, .mnemonic⟩

/-- A register operand is reserved only as a register. -/
def register : Slot :=
  ⟨⟨[.imperative, .declarative, .directives, .conditions], none⟩, .register⟩

/-- A memory operand is no reserved word. -/
def memory : Slot := ⟨⟨Vocabulary.all, none⟩, .memory⟩

/-- The only mnemonics that stand alone. -/
def loneMnemonic : Slot := ⟨⟨[], some ["LTORG", "STOP"]⟩, .mnemonic⟩

/-- The slots of a statement of the given number of words, if that shape is supported. -/
def ofShape? : Nat → Option (List Slot)
  | 1 => some [loneMnemonic]
  | 2 => some [label, mnemonic]
  | 3 => some [label, mnemonic, memory]
  | 4 => some [label, mnemonic, register, memory]
  | _ => none

/-- A supported shape has one slot for each word. -/
theorem length_ofShape? {n : Nat} {slots : List Slot} (h : ofShape? n = some slots) :
    slots.length = n := by
  unfold ofShape? at h
  split at h <;> simp_all <;> subst h <;> rfl

/-- The supported shapes are those of one to four words. -/
theorem ofShape?_isSome {n : Nat} : (ofShape? n).isSome ↔ 1 ≤ n ∧ n ≤ 4 := by
  match n with
  | 0 | 1 | 2 | 3 | 4 => decide
  | n + 5 => simp [ofShape?]

end Slot

end AsmLint

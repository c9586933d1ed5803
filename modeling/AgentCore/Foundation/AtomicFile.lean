import Mathlib.Data.Option.Basic

/-! A file that is written whole. A temporary is made, filled and synced, then renamed over the
file, and the directory is synced. What was synced survives a crash of the machine. A rename
that no sync of the directory has followed may be lost in it: then the data is still there, under
the name of the temporary. -/

namespace AgentCore.Foundation

structure AtomicFile (α : Type) where
  /-- The temporary; it has its content from the moment it is synced. -/
  temp : Option (Option α) := none
  file : Option α := none
  /-- What a rename replaced, until the directory is synced. -/
  replaced : Option (Option α) := none

structure Loss where
  (rename temp : Bool)

namespace AtomicFile

variable {α : Type}

def create (f : AtomicFile α) : AtomicFile α := { f with temp := some none }

def fill (a : α) (f : AtomicFile α) : AtomicFile α := { f with temp := some (some a) }

def rename (f : AtomicFile α) : AtomicFile α :=
  match f.temp with
  | some (some a) => ⟨none, some a, some f.file⟩
  | _ => f

def syncDir (f : AtomicFile α) : AtomicFile α := { f with replaced := none }

def crash (loss : Loss) (f : AtomicFile α) : AtomicFile α :=
  match f.replaced with
  | some old => if loss.rename then ⟨some f.file, old, none⟩ else { f with replaced := none }
  | none =>
    match f.temp, loss.temp with
    | some none, true => { f with temp := none }
    | _, _ => f

/-- The content is safe: it is in the file, or in a temporary that will not be lost. -/
def Holds (f : AtomicFile α) (a : α) : Prop :=
  f.file = some a ∨ f.file = none ∧ f.temp = some (some a)

/-- A rename that may be lost replaced nothing, and left the temporary's name free. -/
def Fresh (f : AtomicFile α) : Prop :=
  ∀ old, f.replaced = some old → old = none ∧ f.file.isSome ∧ f.temp = none

variable {f : AtomicFile α} {a : α}

lemma Holds.unique (h : f.Holds a) (h' : f.Holds b) : a = b := by
  rcases h with h | ⟨hf, ht⟩ <;> rcases h' with h' | ⟨hf', ht'⟩ <;> simp_all

lemma Holds.of_file (h : f.Holds a) (hfile : f.file = some b) : a = b := h.unique (.inl hfile)

lemma replaced_crash (loss : Loss) (f : AtomicFile α) : (f.crash loss).replaced = none := by
  unfold AtomicFile.crash
  cases hr : f.replaced with
  | some old => cases loss.rename <;> rfl
  | none =>
    dsimp only
    split
    · rfl
    · exact hr

lemma fresh_crash (loss : Loss) (f : AtomicFile α) : (f.crash loss).Fresh := fun _ hold =>
  absurd ((replaced_crash loss f).symm.trans hold) nofun

lemma holds_crash (h : f.Fresh) (loss : Loss) : (f.crash loss).Holds a ↔ f.Holds a := by
  unfold AtomicFile.crash Holds
  cases hr : f.replaced with
  | some old =>
    obtain ⟨rfl, hfile, htemp⟩ := h old hr
    obtain ⟨b, hb⟩ := Option.isSome_iff_exists.mp hfile
    cases loss.rename <;> simp [hb, htemp]
  | none =>
    dsimp only
    split
    next htemp _ => simp [htemp]
    next => rfl

lemma file_crash (h : f.replaced = none) (loss : Loss) : (f.crash loss).file = f.file := by
  unfold AtomicFile.crash
  rw [h]
  dsimp only
  split <;> rfl

end AtomicFile

end AgentCore.Foundation

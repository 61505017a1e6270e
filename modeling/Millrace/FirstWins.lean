import Mathlib.Data.List.Basic
import Mathlib.Data.List.Nodup

/-! Logs that take in an item only where none of its key is in them yet. -/

set_option autoImplicit false

namespace Millrace.FirstWins

variable {α κ : Type} (key : α → κ)

/-- At most one item of each key. -/
def Distinct (log : List α) : Prop := (log.map key).Nodup

variable {key} {log : List α} {a : α}

theorem distinct_nil : Distinct key [] := List.nodup_nil

theorem Distinct.append (distinct : Distinct key log) (fresh : key a ∉ log.map key) : Distinct key (log ++ [a]) := by
  unfold Distinct
  rw [List.map_append, List.map_singleton]
  exact List.nodup_append.mpr ⟨distinct, List.nodup_singleton _, fun k there k' last same =>
    fresh (List.mem_singleton.mp last ▸ same ▸ there)⟩

/-- The item of a key is the only one with it. -/
theorem Distinct.filter_eq [DecidableEq κ] (distinct : Distinct key log) (member : a ∈ log) :
    (log.filter fun b => key b = key a) = [a] := by
  induction log with
  | nil => cases member
  | cons b log ih =>
    obtain ⟨apart, rest⟩ := List.nodup_cons.mp distinct
    rcases List.mem_cons.mp member with rfl | later
    · have others : (log.filter fun b => key b = key a) = [] :=
        List.filter_eq_nil_iff.mpr fun c there same =>
          apart (of_decide_eq_true same ▸ List.mem_map_of_mem there)
      rw [List.filter_cons_of_pos (by simp), others]
    · have differs : key b ≠ key a := fun same => apart (same ▸ List.mem_map_of_mem later)
      rw [List.filter_cons_of_neg (by simpa using differs)]
      exact ih rest later

theorem Distinct.filter_length_le [DecidableEq κ] (distinct : Distinct key log) (k : κ) :
    (log.filter fun b => key b = k).length ≤ 1 := by
  by_cases there : ∃ a ∈ log, key a = k
  · obtain ⟨a, member, rfl⟩ := there
    rw [distinct.filter_eq member]
    exact Nat.le_refl 1
  · have none : (log.filter fun b => key b = k) = [] :=
      List.filter_eq_nil_iff.mpr fun b member same => there ⟨b, member, of_decide_eq_true same⟩
    rw [none]
    exact Nat.zero_le 1

/-- Where every part carries the key of its whole, the parts of one key are those of the wholes of that key. -/
theorem filter_flatMap {β : Type} [DecidableEq κ] {tag : β → κ} {parts : α → List β}
    (tagged : ∀ a, ∀ b ∈ parts a, tag b = key a) (k : κ) (l : List α) :
    ((l.flatMap parts).filter fun b => tag b = k) = (l.filter fun a => key a = k).flatMap parts := by
  induction l with
  | nil => rfl
  | cons a l ih =>
    rw [List.flatMap_cons, List.filter_append, ih]
    by_cases same : key a = k
    · have kept : ((parts a).filter fun b => tag b = k) = parts a :=
        List.filter_eq_self.mpr fun b member => by simp [tagged a b member, same]
      rw [kept, List.filter_cons_of_pos (by simpa using same), List.flatMap_cons]
    · have dropped : ((parts a).filter fun b => tag b = k) = [] :=
        List.filter_eq_nil_iff.mpr fun b member => by simp [tagged a b member, same]
      rw [dropped, List.filter_cons_of_neg (by simpa using same), List.nil_append]

end Millrace.FirstWins

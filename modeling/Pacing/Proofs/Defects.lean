/-!
# The first defect

Several parts of an input can be defective at once.  They are looked at in a fixed order, and
the defect of the first one is the error.  A computation that looks at the parts one after
another is specified part by part, without regard to what it computes.
-/

namespace Pacing

variable {Part Defect Value Further : Type}

/-- Both steps of a computation that succeeds have succeeded. -/
theorem ok_of_bind {first : Except Defect Value} {proceed : Value → Except Defect Further}
    {result : Further} (succeeds : first >>= proceed = .ok result) :
    ∃ value, first = .ok value ∧ proceed value = .ok result := by
  cases first with
  | error error => cases succeeds
  | ok value => exact ⟨value, rfl, succeeds⟩

/-- The defect of the first part of a list that has one. -/
inductive FirstDefect (Defective : Part → Defect → Prop) : List Part → Defect → Prop where
  | here {part : Part} {others : List Part} {defect : Defect}
      (isDefect : Defective part defect) : FirstDefect Defective (part :: others) defect
  | later {part : Part} {others : List Part} {defect : Defect}
      (sound : ∀ own, ¬ Defective part own) (behind : FirstDefect Defective others defect) :
      FirstDefect Defective (part :: others) defect

theorem FirstDefect.exists_part {Defective : Part → Defect → Prop} {parts : List Part}
    {defect : Defect} (first : FirstDefect Defective parts defect) :
    ∃ part ∈ parts, Defective part defect := by
  induction first with
  | here isDefect => exact ⟨_, List.mem_cons_self, isDefect⟩
  | later _ _ induction =>
      obtain ⟨part, member, isDefect⟩ := induction
      exact ⟨part, List.mem_cons_of_mem _ member, isDefect⟩

/-- A computation fails with the first defect of some parts, and only with this. -/
def Reports (Defective : Part → Defect → Prop) (parts : List Part)
    (computation : Except Defect Value) : Prop :=
  ∀ defect, computation = .error defect ↔ FirstDefect Defective parts defect

namespace Reports

variable {Defective : Part → Defect → Prop} {part : Part} {others : List Part}

theorem of_ok (value : Value) : Reports Defective [] (.ok value) :=
  fun _ => ⟨nofun, nofun⟩

/-- A computation that looks at one part after which others follow. -/
theorem bind {computation : Except Defect Value} {proceed : Value → Except Defect Further}
    (reports : ∀ defect, computation = .error defect ↔ Defective part defect)
    (follow : ∀ value, computation = .ok value → Reports Defective others (proceed value)) :
    Reports Defective (part :: others) (computation >>= proceed) := by
  intro defect
  cases computed : computation with
  | error own =>
      have isDefect : Defective part own := (reports own).mp computed
      constructor
      · rintro ⟨⟩
        exact .here isDefect
      · intro first
        cases first with
        | here again =>
            cases computed.symm.trans ((reports defect).mpr again)
            rfl
        | later sound _ => exact absurd isDefect (sound own)
  | ok value =>
      have sound : ∀ own, ¬ Defective part own := by
        intro own isDefect
        have failed := (reports own).mpr isDefect
        rw [computed] at failed
        cases failed
      refine (follow value computed defect).trans ⟨.later sound, ?_⟩
      intro first
      cases first with
      | here isDefect => exact absurd isDefect (sound defect)
      | later _ behind => exact behind

end Reports

end Pacing

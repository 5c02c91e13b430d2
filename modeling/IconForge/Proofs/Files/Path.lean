import IconForge.Files.Path
import Mathlib.Data.List.Basic

/-!
Contract: paths as steps.

Owns:
- that following a name from a path adds one step down, that the path which results
  does not end in a slash, and that two names can be followed as one path;
- the place that a path means, whatever stands on the way.

Main statements: `steps_join`, `endsInSlash_join`, `join_join`.

Does not own: where steps lead among directories that may be missing.
-/

namespace IconForge.Files

open IconForge.Text

/-! ### Steps -/

namespace Path

variable {path : Path} {name : Name}

theorem leadsDown_iff :
    leadsDown name = true ↔
      name ≠ [] ∧ name ≠ [Name.dot] ∧ name ≠ [Name.dot, Name.dot] ∧ slash ∉ name ∧ 0 ∉ name := by
  unfold leadsDown
  simp only [Bool.and_eq_true, Bool.not_eq_true', bne_iff_ne, ne_eq, List.isEmpty_eq_false_iff,
    List.contains_eq_mem, decide_eq_false_iff_not, and_assoc]

theorem leadsDown_append {front back : Name} (noSlash : slash ∉ front) (noZero : 0 ∉ front)
    (leads : leadsDown back = true) : leadsDown (front ++ back) = true := by
  obtain ⟨notEmpty, notDot, notDots, noSlashBack, noZeroBack⟩ := leadsDown_iff.mp leads
  refine leadsDown_iff.mpr ⟨?_, ?_, ?_, ?_, ?_⟩
  · exact List.append_ne_nil_of_right_ne_nil front notEmpty
  · simp [List.append_eq_singleton_iff, notEmpty, notDot]
  · intro isDots
    rcases List.append_eq_cons_iff.mp isDots with ⟨-, isBack⟩ | ⟨rest, -, isRest⟩
    · exact notDots isBack
    · rcases List.append_eq_singleton_iff.mp isRest.symm with ⟨-, isDot⟩ | ⟨-, isEmpty⟩
      · exact notDot isDot
      · exact notEmpty isEmpty
  · simp [noSlash, noSlashBack]
  · simp [noZero, noZeroBack]

theorem steps_append_slash (front back : List UInt8) :
    steps ⟨front ++ slash :: back⟩ = steps ⟨front⟩ ++ steps ⟨back⟩ := by
  have pieces : parts ⟨front ++ slash :: back⟩ = parts ⟨front⟩ ++ parts ⟨back⟩ :=
    splitAt_append (by exact beq_self_eq_true slash) front back
  unfold steps
  rw [pieces, List.filter_append, List.map_append]

theorem steps_name (leads : leadsDown name = true) : steps ⟨name⟩ = [.down name] := by
  obtain ⟨notEmpty, notDot, notDots, noSlash, -⟩ := leadsDown_iff.mp leads
  have free : ∀ byte ∈ name, (byte == slash) = false := by
    intro byte member
    rw [beq_eq_false_iff_ne]
    rintro rfl
    exact noSlash member
  unfold steps parts
  rw [splitAt_of_free free]
  simp [notEmpty, Step.ofPart, notDot, notDots]

/-- What a name holds, the path that it is followed along holds too. -/
theorem mem_bytes_join {byte : UInt8} (path : Path) (member : byte ∈ name) :
    byte ∈ (path.join ⟨name⟩).bytes := by
  unfold join
  split
  · exact member
  · split
    · exact List.mem_append_right _ member
    · exact List.mem_append_right _ (List.mem_cons_of_mem _ member)

theorem join_ne_nil (path : Path) (leads : leadsDown name = true) :
    (path.join ⟨name⟩).bytes ≠ [] := by
  obtain ⟨notEmpty, -⟩ := leadsDown_iff.mp leads
  obtain ⟨byte, rest, rfl⟩ := List.exists_cons_of_ne_nil notEmpty
  exact List.ne_nil_of_mem (mem_bytes_join path List.mem_cons_self)

theorem bytes_of_endsInSlash (ends : path.endsInSlash = true) :
    ∃ front, path.bytes = front ++ [slash] :=
  List.getLast?_eq_some_iff.mp (beq_iff_eq.mp ends)

theorem isAbsolute_name (leads : leadsDown name = true) : isAbsolute ⟨name⟩ = false := by
  obtain ⟨-, -, -, noSlash, -⟩ := leadsDown_iff.mp leads
  rw [Bool.eq_false_iff]
  intro absolute
  have isFirst := beq_iff_eq.mp absolute
  exact noSlash (List.mem_of_mem_head? isFirst)

/-- What a name is put behind when it is followed from a path. -/
theorem join_cases (path : Path) (leads : leadsDown name = true) :
    ((path.bytes = [] ∨ ∃ front, path.bytes = front ++ [slash]) ∧
        path.join ⟨name⟩ = ⟨path.bytes ++ name⟩) ∨
      path.join ⟨name⟩ = ⟨path.bytes ++ slash :: name⟩ := by
  unfold join
  rw [if_neg (by simp [isAbsolute_name leads])]
  split
  · next short =>
    refine Or.inl ⟨?_, rfl⟩
    rcases Bool.or_eq_true_iff.mp short with isEmpty | ends
    · exact Or.inl (List.isEmpty_iff.mp isEmpty)
    · exact Or.inr (bytes_of_endsInSlash ends)
  · exact Or.inr rfl

/-- Following a name from a path takes one step down more. -/
theorem steps_join (leads : leadsDown name = true) :
    (path.join ⟨name⟩).steps = path.steps ++ [.down name] := by
  rcases join_cases path leads with ⟨isEmpty | ⟨front, ends⟩, joined⟩ | joined
  · have noSteps : path.steps = [] := by
      obtain ⟨bytes⟩ := path
      cases isEmpty
      rfl
    rw [joined, isEmpty, noSteps]
    exact steps_name leads
  · have noMore : path.steps = steps ⟨front⟩ := by
      obtain ⟨bytes⟩ := path
      cases ends
      exact (steps_append_slash front []).trans (List.append_nil _)
    rw [joined, ends, List.append_assoc, List.singleton_append, steps_append_slash,
      steps_name leads, noMore]
  · rw [joined, steps_append_slash, steps_name leads]

theorem endsInSlash_join (leads : leadsDown name = true) :
    (path.join ⟨name⟩).endsInSlash = false := by
  obtain ⟨notEmpty, -, -, noSlash, -⟩ := leadsDown_iff.mp leads
  have last {front : List UInt8} : endsInSlash ⟨front ++ name⟩ = false := by
    rw [Bool.eq_false_iff]
    intro ends
    have isLast := beq_iff_eq.mp ends
    rw [List.getLast?_append_of_ne_nil _ notEmpty] at isLast
    exact noSlash (List.mem_of_getLast? isLast)
  rcases join_cases path leads with ⟨-, joined⟩ | joined
  · rw [joined]
    exact last
  · rw [joined, List.append_cons]
    exact last

/-- Two names are followed one after the other as they are with a slash between them. -/
theorem join_join {front back : Name} (path : Path) (leads : leadsDown front = true)
    (leadsOn : leadsDown back = true) :
    (path.join ⟨front⟩).join ⟨back⟩ = path.join ⟨front ++ slash :: back⟩ := by
  have relative : isAbsolute ⟨front ++ slash :: back⟩ = false := by
    obtain ⟨notEmpty, -⟩ := leadsDown_iff.mp leads
    have first := isAbsolute_name leads
    unfold isAbsolute at first ⊢
    rwa [List.head?_append_of_ne_nil _ notEmpty]
  have notEmpty : (path.join ⟨front⟩).bytes.isEmpty = false :=
    List.isEmpty_eq_false_iff.mpr (join_ne_nil path leads)
  have behind {other : Path} (noSlash : (other.bytes.isEmpty || other.endsInSlash) = false) :
      other.join ⟨back⟩ = ⟨other.bytes ++ slash :: back⟩ := by
    rw [join, if_neg (by simp [isAbsolute_name leadsOn]), if_neg (by simp [noSlash])]
  rw [behind (by rw [notEmpty, endsInSlash_join leads]; rfl)]
  simp only [join, isAbsolute_name leads, relative, Bool.false_eq_true, if_false]
  split <;> simp

end Path

/-! ### Places -/

/-- The place that a step leads to, given by the names down to it, the last one
first. -/
def Step.follow (place : List Name) : Step → List Name
  | .stay => place
  | .up => place.tail
  | .down name => name :: place

/-- The place that a path means: it leads there, if it leads anywhere. -/
def Path.destination (path : Path) : List Name :=
  path.steps.foldl Step.follow []

end IconForge.Files

import ScriptGateway.Engine.Activation
/-!
# Which threads are active

Binding a thread makes that thread active and no other; releasing it makes it inactive and no
other. The order in which the bindings are kept does not matter for this.

* `Activation.mem_insert`: what stands in the bindings after a new one.
* `Activation.isActive_iff`, `isActive_insert`, `isActive_release`.
* `Activation.Sorted`: each thread at most once, in the order of the indices; `sorted_insert` and
  `sorted_release` keep it.
-/

namespace ScriptGateway.Engine.Activation

theorem mem_insert {thread : Int32} {script : String} {l : List (Int32 × String)}
    {b : Int32 × String} : b ∈ insert thread script l ↔ b = (thread, script) ∨ b ∈ l := by
  induction l with
  | nil => exact List.mem_singleton.trans (or_iff_left List.not_mem_nil).symm
  | cons other rest ih =>
    unfold insert
    split
    · exact List.mem_cons
    · rw [List.mem_cons, ih, List.mem_cons]
      exact or_left_comm

theorem isActive_iff {a : Activation} {thread : Int32} :
    a.isActive thread = true ↔ ∃ script, (thread, script) ∈ a.bindings := by
  unfold isActive script?
  rw [List.lookup_isSome_iff]
  constructor
  · rintro ⟨⟨other, script⟩, hm, he⟩
    exact ⟨script, beq_iff_eq.mp he ▸ hm⟩
  · rintro ⟨script, hm⟩
    exact ⟨(thread, script), hm, beq_iff_eq.mpr rfl⟩

/-- Binding a thread makes it active, and no other. -/
theorem isActive_insert {a : Activation} {thread other : Int32} {script : String} :
    (⟨insert thread script a.bindings⟩ : Activation).isActive other = true ↔
      other = thread ∨ a.isActive other = true := by
  simp only [isActive_iff, mem_insert, Prod.mk.injEq]
  constructor
  · rintro ⟨s, ⟨rfl, rfl⟩ | h⟩
    · exact .inl rfl
    · exact .inr ⟨s, h⟩
  · rintro (rfl | ⟨s, h⟩)
    · exact ⟨script, .inl ⟨rfl, rfl⟩⟩
    · exact ⟨s, .inr h⟩

/-- Releasing a thread makes it inactive, and no other. -/
theorem isActive_release {a : Activation} {thread other : Int32} :
    (a.release thread).isActive other = true ↔ other ≠ thread ∧ a.isActive other = true := by
  simp only [isActive_iff, release, List.mem_filter, decide_eq_true_eq]
  exact ⟨fun ⟨s, h, hne⟩ => ⟨hne, s, h⟩, fun ⟨hne, s, h⟩ => ⟨s, h, hne⟩⟩

/-- A free thread that is bound and released leaves the same threads active as before. -/
theorem isActive_insert_release {a : Activation} {thread : Int32} (script : String)
    (hf : a.isActive thread = false) (other : Int32) :
    (release ⟨insert thread script a.bindings⟩ thread).isActive other = a.isActive other := by
  rw [Bool.eq_iff_iff, isActive_release, isActive_insert]
  constructor
  · rintro ⟨hne, rfl | h⟩
    · exact absurd rfl hne
    · exact h
  · intro h
    refine ⟨?_, .inr h⟩
    rintro rfl
    exact absurd (hf.symm.trans h) Bool.false_ne_true

/-- The bindings stand in the order of their threads, and no thread stands there twice. -/
def Sorted (a : Activation) : Prop :=
  a.bindings.Pairwise fun b b' => b.1 < b'.1

theorem mem_release {a : Activation} {thread : Int32} {b : Int32 × String} :
    b ∈ (a.release thread).bindings ↔ b ∈ a.bindings ∧ b.1 ≠ thread := by
  unfold release
  rw [List.mem_filter, decide_eq_true_eq]

theorem sorted_release {a : Activation} (h : a.Sorted) (thread : Int32) :
    (a.release thread).Sorted :=
  h.filter _

theorem lt_of_not_lt {thread other : Int32} (h : ¬ thread < other) (hne : thread ≠ other) :
    other < thread := by
  have hne' : thread.toInt ≠ other.toInt := fun he => hne (Int32.toInt_inj.mp he)
  rw [Int32.lt_iff_toInt_lt] at h ⊢
  omega

theorem sorted_insert {a : Activation} {thread : Int32} (script : String) (h : a.Sorted)
    (hf : a.isActive thread = false) :
    (⟨insert thread script a.bindings⟩ : Activation).Sorted := by
  have free : ∀ b ∈ a.bindings, thread ≠ b.1 := by
    rintro ⟨other, s⟩ hb rfl
    exact absurd (hf.symm.trans (isActive_iff.mpr ⟨s, hb⟩)) Bool.false_ne_true
  obtain ⟨l⟩ := a
  unfold Sorted at h ⊢
  clear hf
  induction l with
  | nil => exact List.pairwise_singleton _ _
  | cons other rest ih =>
    obtain ⟨first, later⟩ := List.pairwise_cons.mp h
    have ne := free other List.mem_cons_self
    unfold insert
    split
    · next hlt =>
      refine List.pairwise_cons.mpr ⟨?_, h⟩
      intro b hb
      rcases List.mem_cons.mp hb with rfl | hb
      · exact hlt
      · exact Int32.lt_trans hlt (first b hb)
    · next hlt =>
      refine List.pairwise_cons.mpr ⟨?_, ih later fun b hb => free b (List.mem_cons_of_mem _ hb)⟩
      intro b hb
      rcases mem_insert.mp hb with rfl | hb
      · exact lt_of_not_lt hlt ne
      · exact first b hb

end ScriptGateway.Engine.Activation

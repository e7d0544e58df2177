/-!
# The last value of a key

The variables of a request, the values of an event and the fields of an object are lists in which
a key may occur again. What counts is the last value.

* `last?`: the last value of a key.
* `last?_append`, `last?_concat`: the last value where more values follow.
* `last?_of_nodup`: where no key occurs again, every value is the last one of its key.
-/

namespace ScriptGateway

universe u

variable {α : Type u}

/-- The value that stands last under a key. -/
def last? (l : List (String × α)) (key : String) : Option α :=
  l.reverse.lookup key

theorem mem_of_last? {l : List (String × α)} {key : String} {value : α}
    (h : last? l key = some value) : (key, value) ∈ l := by
  obtain ⟨before, after, split, -⟩ := List.lookup_eq_some_iff.mp h
  exact List.mem_reverse.mp (split ▸ List.mem_append_right _ List.mem_cons_self)

theorem last?_append (l more : List (String × α)) (key : String) :
    last? (l ++ more) key = (last? more key).or (last? l key) := by
  rw [last?, List.reverse_append, List.lookup_append, last?, last?]

theorem last?_concat (l : List (String × α)) (f : String × α) (key : String) :
    last? (l ++ [f]) key = if f.1 = key then some f.2 else last? l key := by
  rw [last?, List.reverse_append, List.reverse_singleton, List.singleton_append, last?,
    List.lookup_cons]
  split
  · next e => rw [if_pos (beq_iff_eq.mp e).symm]
  · next e => rw [if_neg (Ne.symm (beq_eq_false_iff_ne.mp e))]

/-- A value that no later one replaces. -/
theorem last?_of_append {key : String} {value : α} {before after : List (String × α)}
    (h : ∀ f ∈ after, f.1 ≠ key) :
    last? (before ++ (key, value) :: after) key = some value := by
  refine List.lookup_eq_some_iff.mpr ⟨after.reverse, before.reverse, ?_, fun f hf => ?_⟩
  · rw [List.reverse_append, List.reverse_cons, List.append_assoc, List.singleton_append]
  · exact bne_iff_ne.mpr (h f (List.mem_reverse.mp hf)).symm

theorem last?_eq_none {l : List (String × α)} {key : String} (h : key ∉ l.map (·.1)) :
    last? l key = none :=
  List.lookup_eq_none_iff.mpr fun _ hf =>
    bne_iff_ne.mpr fun e => h (e ▸ List.mem_map_of_mem (List.mem_reverse.mp hf))

/-- **Where no key occurs again, every value is the last one of its key.** -/
theorem last?_of_nodup {l : List (String × α)} {f : String × α} (h : (l.map (·.1)).Nodup)
    (hf : f ∈ l) : last? l f.1 = some f.2 := by
  obtain ⟨before, after, rfl⟩ := List.append_of_mem hf
  rw [List.map_append, List.map_cons, List.nodup_append, List.nodup_cons] at h
  exact last?_of_append fun g hg e => h.2.1.1 (e ▸ List.mem_map_of_mem hg)

end ScriptGateway

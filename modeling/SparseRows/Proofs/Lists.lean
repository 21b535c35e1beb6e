/-!
# Places in lists

What stands before an element of a list and what stands behind it, and where a part of a list can start.
-/

namespace SparseRows

variable {α : Type}

/-- A place in a list that ends with an element is the end or comes before it. -/
theorem split_concat {list earlier later : List α} {last a : α} (h : list ++ [last] = earlier ++ a :: later) :
    (list = earlier ∧ last = a) ∨ ∃ more, later = more ++ [last] ∧ list = earlier ++ a :: more := by
  rcases List.eq_nil_or_concat later with rfl | ⟨more, final, rfl⟩
  · obtain ⟨hearlier, hlast⟩ := List.append_inj' h rfl
    exact .inl ⟨hearlier, List.singleton_inj.mp hlast⟩
  · rw [List.concat_eq_append, ← List.cons_append, ← List.append_assoc] at h
    obtain ⟨hlist, hlast⟩ := List.append_inj' h rfl
    obtain rfl := List.singleton_inj.mp hlast
    exact .inr ⟨more, List.concat_eq_append .., hlist⟩

/-- What stands before the first mark and what stands behind it. -/
theorem append_cons_inj_of_notMem {mark : α} {xs ys rest rest' : List α} (hx : mark ∉ xs) (hy : mark ∉ ys)
    (h : xs ++ mark :: rest = ys ++ mark :: rest') : xs = ys ∧ rest = rest' := by
  induction xs generalizing ys with
  | nil =>
    cases ys with
    | nil => exact ⟨rfl, (List.cons.inj h).2⟩
    | cons y ys => exact absurd (List.cons.inj h).1 fun heq => hy (heq ▸ List.mem_cons_self)
  | cons x xs ih =>
    cases ys with
    | nil => exact absurd (List.cons.inj h).1 fun heq => hx (heq ▸ List.mem_cons_self)
    | cons y ys =>
      obtain ⟨hhead, htail⟩ := List.cons.inj h
      obtain ⟨hxs, hrest⟩ := ih (fun hmem => hx (List.mem_cons_of_mem _ hmem)) (fun hmem => hy (List.mem_cons_of_mem _ hmem)) htail
      exact ⟨by rw [hhead, hxs], hrest⟩

/-- What starts with an element does not start in a part without it. -/
theorem infix_of_infix_append (part : List α) {needle rest : List α} {mark : α} (hpart : mark ∉ part)
    (h : mark :: needle <:+: part ++ rest) : mark :: needle <:+: rest := by
  induction part with
  | nil => exact h
  | cons a part ih =>
    rw [List.mem_cons, not_or] at hpart
    rw [List.cons_append, List.infix_cons_iff, List.cons_prefix_cons] at h
    exact ih hpart.2 (h.resolve_left fun hfirst => hpart.1 hfirst.1)

end SparseRows

/-
# Requests one after another

A store takes requests in a row. One that it carries out is answered and leaves the store
in a new state; one that it refuses leaves it as it was (`Handler.serve_of_refused`).

Two stores do the same if their states stand in a relation that every request keeps, while
both answer alike or refuse for one reason (`Handler.Refines`). Then they do the same under
every history (`Handler.Refines.run`).
-/

namespace ChipEight

/-- How a store takes a request: it answers and changes, or refuses. -/
abbrev Handler (σ ρ ε α : Type) := σ → ρ → Except ε (α × σ)

namespace Handler

variable {σ τ ρ ε α : Type}

/-- What comes back from a request, and the store behind it. -/
def serve (handle : Handler σ ρ ε α) (s : σ) (r : ρ) : Except ε α × σ :=
  match handle s r with
  | .ok (a, s') => (.ok a, s')
  | .error e => (.error e, s)

/-- The store behind a row of requests. -/
def after (handle : Handler σ ρ ε α) (s : σ) (rs : List ρ) : σ :=
  rs.foldl (fun s r => (handle.serve s r).2) s

/-- What comes back from a row of requests. -/
def answers (handle : Handler σ ρ ε α) (s : σ) : List ρ → List (Except ε α)
  | [] => []
  | r :: rs => (handle.serve s r).1 :: handle.answers (handle.serve s r).2 rs

/-- Two requests ended alike: refused for one reason, or answered the same with stores that
stand in the relation. -/
inductive SameResult (R : σ → τ → Prop) : Except ε (α × σ) → Except ε (α × τ) → Prop
  | refused (e : ε) : SameResult R (.error e) (.error e)
  | answered (a : α) {s : σ} {t : τ} (h : R s t) : SameResult R (.ok (a, s)) (.ok (a, t))

/-- Every request ends alike on stores that stand in the relation. -/
def Refines (handle : Handler σ ρ ε α) (handle' : Handler τ ρ ε α) (R : σ → τ → Prop) : Prop :=
  ∀ ⦃s t⦄, R s t → ∀ r, SameResult R (handle s r) (handle' t r)

variable {handle : Handler σ ρ ε α} {handle' : Handler τ ρ ε α} {R : σ → τ → Prop} {s : σ} {t : τ}

theorem serve_eq_error_iff {r : ρ} {e : ε} :
    (handle.serve s r).1 = .error e ↔ handle s r = .error e := by
  unfold serve
  cases handle s r <;> simp

/-- **A refused request changes nothing.** -/
theorem serve_of_refused {r : ρ} {e : ε} (h : (handle.serve s r).1 = .error e) :
    (handle.serve s r).2 = s := by
  rw [serve, serve_eq_error_iff.1 h]

theorem Refines.serve (h : Refines handle handle' R) (hR : R s t) (r : ρ) :
    (handle.serve s r).1 = (handle'.serve t r).1
      ∧ R (handle.serve s r).2 (handle'.serve t r).2 := by
  have hsame := h hR r
  unfold Handler.serve
  generalize handle s r = result, handle' t r = result' at *
  cases hsame with
  | refused e => exact ⟨rfl, hR⟩
  | answered a hR' => exact ⟨rfl, hR'⟩

/-- **What every request keeps, every history keeps:** the answers are the same, and the
stores stand in the relation at the end. -/
theorem Refines.run (h : Refines handle handle' R) (hR : R s t) (rs : List ρ) :
    handle.answers s rs = handle'.answers t rs ∧ R (handle.after s rs) (handle'.after t rs) := by
  induction rs generalizing s t with
  | nil => exact ⟨rfl, hR⟩
  | cons r rs ih =>
    obtain ⟨hanswer, hnext⟩ := h.serve hR r
    obtain ⟨hanswers, hafter⟩ := ih hnext
    refine ⟨?_, hafter⟩
    rw [answers, answers, hanswer, hanswers]

end Handler
end ChipEight

import Mathlib.Data.Nat.Notation
import Mathlib.Tactic.Common

/-!
# Devices that reply to requests

A device is a partial function `step : σ → α → Option (β × σ)`: to a request `a : α` it gives
a reply and its next state, or `none` when serving the request leaves the memory it owns.
`replies` serves a list of requests. `exists_replies` is the rule for a device that never fails,
and `replies_simulate` compares two devices: when every single reply of the one is the image of
the reply of the other, so are the replies to any list of requests.
-/

namespace EspLab
namespace Device

variable {σ τ α β γ δ : Type*}

/-- The replies to a list of requests and the state after the last one. -/
def replies (step : σ → α → Option (β × σ)) : σ → List α → Option (List β × σ)
  | s, [] => some ([], s)
  | s, a :: as =>
    (step s a).bind fun r => (replies step r.2 as).map fun q => (r.1 :: q.1, q.2)

variable {step : σ → α → Option (β × σ)} {stepA : τ → γ → Option (δ × τ)}

@[simp] theorem replies_nil (s : σ) : replies step s [] = some ([], s) := rfl

theorem replies_cons_eq_some {s t : σ} {a : α} {as : List α} {bs : List β} :
    replies step s (a :: as) = some (bs, t) ↔
      ∃ b u cs, step s a = some (b, u) ∧ replies step u as = some (cs, t) ∧ bs = b :: cs := by
  rw [replies, Option.bind_eq_some_iff]
  apply Iff.intro
  · rintro ⟨⟨b, u⟩, hb, h⟩
    obtain ⟨⟨cs, v⟩, hc, heq⟩ := Option.map_eq_some_iff.mp h
    cases heq
    exact ⟨b, u, cs, hb, hc, rfl⟩
  · rintro ⟨b, u, cs, hb, hc, rfl⟩
    refine ⟨(b, u), hb, ?_⟩
    rw [hc]
    rfl

/-- **Run rule.** Where every request is answered under `I` and `I` is kept, so is every list of
requests. -/
theorem exists_replies {I : σ → Prop}
    (hstep : ∀ s a, I s → ∃ b t, step s a = some (b, t) ∧ I t) {s : σ} (hs : I s) (as : List α) :
    ∃ bs t, replies step s as = some (bs, t) ∧ I t := by
  induction as generalizing s with
  | nil => exact ⟨[], s, rfl, hs⟩
  | cons a as ih =>
    obtain ⟨b, u, hb, hu⟩ := hstep s a hs
    obtain ⟨bs, t, ht, hI⟩ := ih hu
    exact ⟨b :: bs, t, replies_cons_eq_some.mpr ⟨b, u, bs, hb, ht, rfl⟩, hI⟩

/-- A device that answers each request as another one does, up to the translations `g` of the
requests and `f` of the replies, answers any list of requests so. -/
theorem replies_simulate {R : σ → τ → Prop} {f : δ → β} {g : α → γ}
    (hstep : ∀ s t a d t', R s t → stepA t (g a) = some (d, t') →
      ∃ s', step s a = some (f d, s') ∧ R s' t')
    {s : σ} {t t' : τ} {as : List α} {ds : List δ} (hR : R s t)
    (h : replies stepA t (as.map g) = some (ds, t')) :
    ∃ s', replies step s as = some (ds.map f, s') ∧ R s' t' := by
  induction as generalizing s t ds with
  | nil =>
    cases h
    exact ⟨s, rfl, hR⟩
  | cons a as ih =>
    obtain ⟨d, u, es, hd, he, rfl⟩ := replies_cons_eq_some.mp h
    obtain ⟨v, hv, hRv⟩ := hstep s t a d u hR hd
    obtain ⟨s', hs', hRs'⟩ := ih hRv he
    exact ⟨s', replies_cons_eq_some.mpr ⟨f d, v, es.map f, hv, hs', rfl⟩, hRs'⟩

end Device
end EspLab

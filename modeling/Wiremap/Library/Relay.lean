/-! News that is handed on from place to place.  Each place notes the version it had the news
at; nothing is lost while every version has one as late in the next place, or is on its way. -/
namespace Wiremap.Library.Relay

/-- What `src` has noted, `dst` has noted at that version or later, unless something is
under way. -/
def Passed (underway : Prop) (src dst : List Nat) : Prop :=
  ∀ n ∈ src, underway ∨ ∃ m ∈ dst, n ≤ m

namespace Passed

variable {p q : Prop} {src mid dst : List Nat}

theorem nil (p : Prop) (dst : List Nat) : Passed p [] dst := by
  intro n hn
  cases hn

theorem weaken (h : Passed p src dst) (hp : p → q) : Passed q src dst :=
  fun n hn => (h n hn).imp_left hp

theorem trans (h : Passed p src mid) (h' : Passed q mid dst) : Passed (p ∨ q) src dst := by
  intro n hn
  rcases h n hn with hp | ⟨m, hm, hle⟩
  · exact .inl (.inl hp)
  · rcases h' m hm with hq | ⟨k, hk, hle'⟩
    · exact .inl (.inr hq)
    · exact .inr ⟨k, hk, Nat.le_trans hle hle'⟩

theorem of_bound {v : Nat} (hbound : ∀ n ∈ src, n ≤ v) (hv : v ∈ dst) : Passed p src dst :=
  fun n hn => .inr ⟨v, hv, hbound n hn⟩

theorem arrived (h : Passed p src dst) (hnone : ¬p) : ∀ n ∈ src, ∃ m ∈ dst, n ≤ m :=
  fun n hn => (h n hn).resolve_left hnone

end Passed
end Wiremap.Library.Relay

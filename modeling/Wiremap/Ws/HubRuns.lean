import Wiremap.Ws.Hub

/-! Which streams of a Docker client are still running.  The invariant `Owned`
says that the table of cancel functions owns every live context; it survives
every step but one, a message or a disconnect that overtakes the registration
of a stream it is about. -/
namespace Wiremap.Ws.Hub

open Wiremap.Library

/-- Stream `i` serves `kind` of `container` and its context is not cancelled. -/
def Client.Uncancelled (c : Client) (i : Nat) (kind : StreamKind) (container : String) : Prop :=
  ∃ s ctx, c.streams[i]? = some s ∧ s.kind = kind ∧ s.payload.containerID = container ∧
    s.phase.ctx = some ctx ∧ c.registry.Live ctx

def Client.Registered (c : Client) (i : Nat) : Prop :=
  ∃ s, c.streams[i]? = some s ∧ s.phase.settled = true

/-- What a client that took `events` and reached `c` owes its subscriptions. -/
structure Tidy (events : List Event) (c : Client) : Prop where
  single : ∀ i j kind container,
    c.Uncancelled i kind container → c.Uncancelled j kind container → i = j
  unsubscribed : ∀ before frame after kind payload c₁,
    events = before ++ .receive frame :: after →
    frame.action = some (.unsubscribe kind payload) →
    machine.Run Machine.unguarded before c₁ →
    ∀ i < c₁.streams.length, c.Registered i → ¬ c.Uncancelled i kind payload.containerID
  cleaned : ∀ before after, events = before ++ .disconnect :: after →
    ∀ i kind container, ¬ c.Uncancelled i kind container

/-- A message about a key, and the disconnect, find every stream they are about
past the registration of its cancel function. -/
def Settled (c : Client) : Event → Prop
  | .receive frame => ∀ action ∈ frame.action,
      ∀ s ∈ c.streams, s.key = action.key → s.phase.settled = true
  | .disconnect => ∀ s ∈ c.streams, s.phase.settled = true
  | _ => True

instance (c : Client) : ∀ e, Decidable (Settled c e)
  | .receive frame => inferInstanceAs (Decidable (∀ action ∈ frame.action,
      ∀ s ∈ c.streams, s.key = action.key → s.phase.settled = true))
  | .disconnect => inferInstanceAs (Decidable (∀ s ∈ c.streams, s.phase.settled = true))
  | .spawn => isTrue trivial
  | .create _ => isTrue trivial
  | .register _ => isTrue trivial
  | .finish _ => isTrue trivial

def Client.Ended (c : Client) (s : Stream) : Prop :=
  s.phase.settled = true ∧ ∀ ctx, s.phase.ctx = some ctx → ¬ c.registry.Live ctx

structure Owned (c : Client) : Prop where
  fresh : ∀ s ∈ c.streams, ∀ ctx, s.phase.ctx = some ctx → ctx < c.registry.next
  distinct : ∀ (i j : Nat) (s t : Stream) (ctx : Nat), c.streams[i]? = some s → c.streams[j]? = some t →
    s.phase.ctx = some ctx → t.phase.ctx = some ctx → i = j
  held : ∀ (i : Nat) (s : Stream) (ctx : Nat), c.streams[i]? = some s → s.phase.settled = true →
    s.phase.ctx = some ctx → c.registry.Live ctx → c.registry.Holds s.key ctx
  pending : ∀ (i j : Nat) (s t : Stream), c.streams[i]? = some s → s.phase.settled = false →
    c.streams[j]? = some t → t.key = s.key → j ≠ i → c.Ended t
  spawning : ∀ kind payload, c.reader = .spawning kind payload →
    ∀ s ∈ c.streams, s.key = kind.key payload.containerID → c.Ended s
  closed : c.reader = .closed → ∀ s ∈ c.streams, c.Ended s

private theorem getElem?_setPhase {c : Client} {i : Nat} {s : Stream}
    (hs : c.streams[i]? = some s) (phase : Phase) (j : Nat) (t : Stream) :
    (c.setPhase i s phase).streams[j]? = some t ↔
      (j = i ∧ t = { s with phase := phase }) ∨ (j ≠ i ∧ c.streams[j]? = some t) := by
  have hlt : i < c.streams.length := (List.getElem?_eq_some_iff.mp hs).1
  unfold Client.setPhase
  rw [List.getElem?_set]
  split
  · rename_i heq
    subst heq
    simp [hlt, eq_comm]
  · rename_i hne
    simp [Ne.symm hne]

private theorem mem_setPhase {c : Client} {i : Nat} {s : Stream}
    (hs : c.streams[i]? = some s) (phase : Phase) {t : Stream}
    (ht : t ∈ (c.setPhase i s phase).streams) :
    t = { s with phase := phase } ∨ t ∈ c.streams := by
  obtain ⟨j, hj⟩ := List.mem_iff_getElem?.mp ht
  rcases (getElem?_setPhase hs phase j t).mp hj with ⟨-, rfl⟩ | ⟨-, hj⟩
  · exact .inl rfl
  · exact .inr (List.mem_of_getElem? hj)

theorem owned_init : Owned machine.init where
  fresh := by simp [machine]
  distinct := by simp [machine]
  held := by simp [machine]
  pending := by simp [machine]
  spawning := by simp [machine]
  closed := by simp [machine]

/-- Cancelling a key keeps the invariant for any reader that is not closed,
provided the streams it newly vouches for have all registered. -/
private theorem owned_cancelStream {c : Client} (hc : Owned c) (key : String) (reader : Reader)
    (hopen : reader ≠ .closed)
    (hspawn : ∀ kind payload, reader = .spawning kind payload →
      kind.key payload.containerID = key ∧ ∀ s ∈ c.streams, s.key = key → s.phase.settled = true) :
    Owned { c.cancelStream key with reader := reader } where
  fresh s hs ctx hctx := by
    simpa [Client.cancelStream] using hc.fresh s hs ctx hctx
  distinct := hc.distinct
  held i s ctx hs hsettled hctx hlive := by
    simp only [Client.cancelStream, CancelRegistry.live_cancelKey,
      CancelRegistry.holds_cancelKey] at hlive ⊢
    have hholds := hc.held i s ctx hs hsettled hctx hlive.1
    refine ⟨hholds, ?_⟩
    rintro rfl
    exact hlive.2 hholds
  pending i j s t hs hsettled ht hkey hne := by
    obtain ⟨hend, hdead⟩ := hc.pending i j s t hs hsettled ht hkey hne
    refine ⟨hend, fun ctx hctx => ?_⟩
    simp [Client.cancelStream, hdead ctx hctx]
  spawning kind payload hreader s hs hkey := by
    obtain ⟨rfl, hregistered⟩ := hspawn kind payload hreader
    have hsettled := hregistered s hs hkey
    refine ⟨hsettled, fun ctx hctx => ?_⟩
    simp only [Client.cancelStream, CancelRegistry.live_cancelKey, not_and, not_not]
    intro hlive
    obtain ⟨i, hi⟩ := List.mem_iff_getElem?.mp hs
    rw [← hkey]
    exact hc.held i s ctx hi hsettled hctx hlive
  closed h := absurd h hopen

private theorem owned_receive {c : Client} (hc : Owned c) {frame : Frame}
    (hreader : c.reader = .reading) (hsettled : Settled c (.receive frame)) :
    Owned (c.receive frame) := by
  rcases receive_cases c frame with ⟨-, heq⟩ | ⟨kind, payload, haction, heq⟩ |
    ⟨kind, payload, haction, heq⟩
  · rwa [heq]
  · rw [heq]
    refine owned_cancelStream hc _ _ (by simp) fun kind' payload' h => ?_
    cases h
    exact ⟨rfl, hsettled _ haction⟩
  · rw [heq]
    have h := owned_cancelStream hc (kind.key payload.containerID) c.reader
      (by simp [hreader]) (by simp [hreader])
    exact h

private theorem owned_spawn {c : Client} (hc : Owned c) {kind : StreamKind}
    {payload : SubscribePayload} (hreader : c.reader = .spawning kind payload) :
    Owned { c with streams := c.streams ++ [⟨kind, payload, .spawned⟩], reader := .reading } := by
  have hget : ∀ (i : Nat) (s : Stream), (c.streams ++ [⟨kind, payload, .spawned⟩])[i]? = some s →
      c.streams[i]? = some s ∨ (i = c.streams.length ∧ s = ⟨kind, payload, .spawned⟩) := by
    intro i s h
    rw [List.getElem?_append] at h
    split at h
    · exact .inl h
    · rename_i hge
      rw [List.getElem?_singleton] at h
      split at h
      · exact .inr ⟨by omega, (Option.some.inj h).symm⟩
      · cases h
  constructor
  · intro s hs ctx hctx
    rcases List.mem_append.mp hs with hs | hs
    · exact hc.fresh s hs ctx hctx
    · cases List.mem_singleton.mp hs
      cases hctx
  · intro i j s t ctx hs ht hsctx htctx
    rcases hget i s hs with hs | ⟨-, rfl⟩
    · rcases hget j t ht with ht | ⟨-, rfl⟩
      · exact hc.distinct i j s t ctx hs ht hsctx htctx
      · cases htctx
    · cases hsctx
  · intro i s ctx hs hsettled hctx hlive
    rcases hget i s hs with hs | ⟨-, rfl⟩
    · exact hc.held i s ctx hs hsettled hctx hlive
    · cases hctx
  · intro i j s t hs hsettled ht hkey hne
    rcases hget i s hs with hs | ⟨hi, rfl⟩
    · rcases hget j t ht with ht | ⟨-, rfl⟩
      · exact hc.pending i j s t hs hsettled ht hkey hne
      · -- the reader vouched for every stream of the new stream's key
        have hend := hc.spawning kind payload hreader s (List.mem_of_getElem? hs) hkey.symm
        rw [hend.1] at hsettled
        cases hsettled
    · rcases hget j t ht with ht | ⟨hj, -⟩
      · exact hc.spawning kind payload hreader t (List.mem_of_getElem? ht) hkey
      · omega
  · simp
  · simp

private theorem owned_setPhase {c : Client} (hc : Owned c) {i : Nat} {s : Stream}
    (hs : c.streams[i]? = some s) (hopen : s.phase.settled = false) {phase : Phase}
    {registry : CancelRegistry String} (ctx : Nat) (hphase : phase.ctx = some ctx)
    (hnext : ctx < registry.next) (hgrow : c.registry.next ≤ registry.next)
    (hown : ∀ (j : Nat) (t : Stream), c.streams[j]? = some t → t.phase.ctx = some ctx → j = i)
    (hlive : ∀ other, other ≠ ctx → (registry.Live other ↔ c.registry.Live other))
    (hself : phase.settled = true → registry.Live ctx → registry.Holds s.key ctx)
    (hholds : ∀ key other, key ≠ s.key → c.registry.Holds key other → registry.Holds key other) :
    Owned { c.setPhase i s phase with registry := registry } := by
  have hended : ∀ (j : Nat) (t : Stream), c.streams[j]? = some t → j ≠ i → c.Ended t →
      Client.Ended { c.setPhase i s phase with registry := registry } t := by
    intro j t ht hne hend
    refine ⟨hend.1, fun other hother => ?_⟩
    have hne : other ≠ ctx := fun h => hne (hown j t ht (h ▸ hother))
    rw [hlive other hne]
    exact hend.2 other hother
  have hnotEnded : ¬ c.Ended s := by
    rintro ⟨hsettled, -⟩
    rw [hopen] at hsettled
    cases hsettled
  constructor
  · intro t ht other hother
    rcases mem_setPhase hs phase ht with rfl | ht
    · cases hphase.symm.trans hother
      exact hnext
    · exact Nat.lt_of_lt_of_le (hc.fresh t ht other hother) hgrow
  · intro j k t u other ht hu htctx huctx
    rcases (getElem?_setPhase hs phase j t).mp ht with ⟨rfl, rfl⟩ | ⟨hj, ht'⟩
    · cases hphase.symm.trans htctx
      rcases (getElem?_setPhase hs phase k u).mp hu with ⟨rfl, -⟩ | ⟨hk, hu'⟩
      · rfl
      · exact absurd (hown k u hu' huctx) hk
    · rcases (getElem?_setPhase hs phase k u).mp hu with ⟨rfl, rfl⟩ | ⟨hk, hu'⟩
      · cases hphase.symm.trans huctx
        exact absurd (hown j t ht' htctx) hj
      · exact hc.distinct j k t u other ht' hu' htctx huctx
  · intro j t other ht hsettled hother hothers
    rcases (getElem?_setPhase hs phase j t).mp ht with ⟨rfl, rfl⟩ | ⟨hj, ht'⟩
    · cases hphase.symm.trans hother
      exact hself hsettled hothers
    · have hne : other ≠ ctx := fun h => hj (hown j t ht' (h ▸ hother))
      have hbefore := (hlive other hne).mp hothers
      refine hholds t.key other ?_ (hc.held j t other ht' hsettled hother hbefore)
      intro hkey
      exact (hc.pending i j s t hs hopen ht' hkey hj).2 other hother hbefore
  · intro j k t u ht hpending hu hkey hne
    rcases (getElem?_setPhase hs phase k u).mp hu with ⟨rfl, rfl⟩ | ⟨hk, hu'⟩
    · rcases (getElem?_setPhase hs phase j t).mp ht with ⟨rfl, -⟩ | ⟨hj, ht'⟩
      · exact absurd rfl hne
      · -- two pending streams of one key exclude each other
        exact absurd (hc.pending j k t s ht' hpending hs hkey hne) hnotEnded
    · refine hended k u hu' hk ?_
      rcases (getElem?_setPhase hs phase j t).mp ht with ⟨rfl, rfl⟩ | ⟨hj, ht'⟩
      · exact hc.pending j k s u hs hopen hu' hkey hk
      · exact hc.pending j k t u ht' hpending hu' hkey hne
  · intro kind payload hspawning t ht hkey
    obtain ⟨k, hk⟩ := List.mem_iff_getElem?.mp ht
    rcases (getElem?_setPhase hs phase k t).mp hk with ⟨rfl, rfl⟩ | ⟨hne, hk⟩
    · exact absurd (hc.spawning kind payload hspawning s (List.mem_of_getElem? hs) hkey) hnotEnded
    · exact hended k t hk hne (hc.spawning kind payload hspawning t (List.mem_of_getElem? hk) hkey)
  · intro hclosed t ht
    exact absurd (hc.closed hclosed s (List.mem_of_getElem? hs)) hnotEnded

private theorem owned_create {c : Client} (hc : Owned c) {i : Nat} {s : Stream}
    (hs : c.streams[i]? = some s) (hphase : s.phase = .spawned) :
    Owned { c.setPhase i s (.created c.registry.next) with registry := c.registry.withCancel } := by
  refine owned_setPhase hc hs (by rw [hphase]; rfl) c.registry.next rfl (by simp) (by simp)
    ?_ ?_ ?_ fun _ _ _ h => h
  · intro j t ht hctx
    have hlt := hc.fresh t (List.mem_of_getElem? ht) _ hctx
    omega
  · intro other hne
    simp [hne]
  · simp [Phase.settled]

private theorem owned_register {c : Client} (hc : Owned c) {i ctx : Nat} {s : Stream}
    (hs : c.streams[i]? = some s) (hphase : s.phase = .created ctx) :
    Owned { c.setPhase i s (.registered ctx) with
      registry := c.registry.register s.key ctx } := by
  have hctx : s.phase.ctx = some ctx := by rw [hphase]; rfl
  refine owned_setPhase hc hs (by rw [hphase]; rfl) ctx rfl
    (hc.fresh s (List.mem_of_getElem? hs) ctx hctx) (le_refl _) ?_ ?_ ?_ ?_
  · intro j t ht htctx
    exact hc.distinct j i t s ctx ht hs htctx hctx
  · simp
  · simp
  · intro key other hne hholds
    exact (CancelRegistry.holds_register_ne _ hne _ _).mpr hholds

private theorem owned_finish {c : Client} (hc : Owned c) {i ctx : Nat} {s : Stream}
    (hs : c.streams[i]? = some s) (hphase : s.phase = .registered ctx) :
    Owned (c.setPhase i s (.returned ctx)) := by
  have hsame : ∀ (j : Nat) (t : Stream), (c.setPhase i s (.returned ctx)).streams[j]? = some t →
      ∃ t', c.streams[j]? = some t' ∧ t'.key = t.key ∧ t'.phase.ctx = t.phase.ctx ∧
        t'.phase.settled = t.phase.settled := by
    intro j t ht
    rcases (getElem?_setPhase hs _ j t).mp ht with ⟨rfl, rfl⟩ | ⟨-, ht⟩
    · exact ⟨s, hs, rfl, by rw [hphase]; rfl, by rw [hphase]; rfl⟩
    · exact ⟨t, ht, rfl, rfl, rfl⟩
  have hmem : ∀ t ∈ (c.setPhase i s (.returned ctx)).streams,
      ∃ t' ∈ c.streams, t'.key = t.key ∧ t'.phase.ctx = t.phase.ctx ∧
        t'.phase.settled = t.phase.settled := by
    intro t ht
    obtain ⟨j, hj⟩ := List.mem_iff_getElem?.mp ht
    obtain ⟨t', ht', h⟩ := hsame j t hj
    exact ⟨t', List.mem_of_getElem? ht', h⟩
  constructor
  · intro t ht other hother
    obtain ⟨t', ht', -, hctx, -⟩ := hmem t ht
    exact hc.fresh t' ht' other (hctx.trans hother)
  · intro j k t u other ht hu htctx huctx
    obtain ⟨t', ht', -, htctx', -⟩ := hsame j t ht
    obtain ⟨u', hu', -, huctx', -⟩ := hsame k u hu
    exact hc.distinct j k t' u' other ht' hu' (htctx'.trans htctx) (huctx'.trans huctx)
  · intro j t other ht hsettled hother hlive
    obtain ⟨t', ht', hkey, hctx, hset⟩ := hsame j t ht
    rw [← hkey]
    exact hc.held j t' other ht' (hset.trans hsettled) (hctx.trans hother) hlive
  · intro j k t u ht hpending hu hkey hne
    obtain ⟨t', ht', htkey, -, htset⟩ := hsame j t ht
    obtain ⟨u', hu', hukey, huctx, huset⟩ := hsame k u hu
    obtain ⟨hsettled, hdead⟩ := hc.pending j k t' u' ht' (htset.trans hpending) hu'
      (by rw [hukey, hkey, htkey]) hne
    exact ⟨huset ▸ hsettled, fun other hother => hdead other (huctx.trans hother)⟩
  · intro kind payload hreader t ht hkey
    obtain ⟨t', ht', htkey, hctx, hset⟩ := hmem t ht
    obtain ⟨hsettled, hdead⟩ := hc.spawning kind payload hreader t' ht' (htkey.trans hkey)
    exact ⟨hset ▸ hsettled, fun other hother => hdead other (hctx.trans hother)⟩
  · intro hclosed t ht
    obtain ⟨t', ht', -, hctx, hset⟩ := hmem t ht
    obtain ⟨hsettled, hdead⟩ := hc.closed hclosed t' ht'
    exact ⟨hset ▸ hsettled, fun other hother => hdead other (hctx.trans hother)⟩

private theorem owned_disconnect {c : Client} (hc : Owned c)
    (hsettled : Settled c .disconnect) : Owned { c.cleanup with reader := .closed } := by
  have hdead : ∀ s ∈ c.streams, ∀ ctx, s.phase.ctx = some ctx →
      ¬ c.registry.cancelAll.Live ctx := by
    intro s hs ctx hctx hlive
    rw [CancelRegistry.live_cancelAll] at hlive
    obtain ⟨i, hi⟩ := List.mem_iff_getElem?.mp hs
    exact hlive.2 s.key (hc.held i s ctx hi (hsettled s hs) hctx hlive.1)
  constructor
  · intro s hs ctx hctx
    simpa [Client.cleanup] using hc.fresh s hs ctx hctx
  · exact hc.distinct
  · intro i s ctx hs _ hctx hlive
    exact absurd hlive (hdead s (List.mem_of_getElem? hs) ctx hctx)
  · intro i j s t hs hpending
    rw [hsettled s (List.mem_of_getElem? hs)] at hpending
    cases hpending
  · simp
  · intro _ s hs
    exact ⟨hsettled s hs, hdead s hs⟩

theorem owned_step {c c' : Client} {e : Event} (hc : Owned c) (hsettled : Settled c e)
    (h : step c e = some c') : Owned c' := by
  rcases step_cases h with ⟨frame, rfl, hreader, rfl⟩ | ⟨kind, payload, rfl, hreader, rfl⟩ |
    ⟨i, s, rfl, hs, hphase, rfl⟩ | ⟨i, s, ctx, rfl, hs, hphase, rfl⟩ |
    ⟨i, s, ctx, rfl, hs, hphase, rfl⟩ | ⟨rfl, -, rfl⟩
  · exact owned_receive hc hreader hsettled
  · exact owned_spawn hc hreader
  · exact owned_create hc hs hphase
  · exact owned_register hc hs hphase
  · exact owned_finish hc hs hphase
  · exact owned_disconnect hc hsettled

theorem owned_run {events : List Event} {c : Client} (hrun : machine.Run Settled events c) :
    Owned c :=
  hrun.invariant owned_init fun _ _ _ hc hsettled h => owned_step hc hsettled h

private theorem dead_receive {c : Client} {frame : Frame} {ctx : Nat}
    (hdead : ¬ c.registry.Live ctx) : ¬ (c.receive frame).registry.Live ctx := by
  rcases receive_cases c frame with ⟨-, heq⟩ | ⟨_, _, -, heq⟩ | ⟨_, _, -, heq⟩ <;>
    simp [heq, Client.cancelStream, hdead]

private theorem ended_setPhase {c : Client} {i j : Nat} {s t : Stream}
    (hs : c.streams[i]? = some s) (ht : c.streams[j]? = some t) {phase : Phase}
    {registry : CancelRegistry String}
    (hself : c.Ended t →
      Client.Ended { c.setPhase j t phase with registry := registry } { t with phase := phase })
    (hdead : ∀ ctx, s.phase.ctx = some ctx → ¬ c.registry.Live ctx → ¬ registry.Live ctx) :
    ∃ s', (c.setPhase j t phase).streams[i]? = some s' ∧ s'.key = s.key ∧
      (c.Ended s → Client.Ended { c.setPhase j t phase with registry := registry } s') := by
  by_cases hij : i = j
  · subst hij
    cases hs.symm.trans ht
    exact ⟨_, (getElem?_setPhase hs _ i _).mpr (.inl ⟨rfl, rfl⟩), rfl, hself⟩
  · refine ⟨s, (getElem?_setPhase ht _ i s).mpr (.inr ⟨hij, hs⟩), rfl, ?_⟩
    rintro ⟨hend, hgone⟩
    exact ⟨hend, fun ctx hctx => hdead ctx hctx (hgone ctx hctx)⟩

/-- A stream keeps its key, and one that has ended stays ended. -/
private theorem ended_step {c c' : Client} {e : Event} (hc : Owned c)
    (h : step c e = some c') {i : Nat} {s : Stream} (hs : c.streams[i]? = some s) :
    ∃ s', c'.streams[i]? = some s' ∧ s'.key = s.key ∧ (c.Ended s → c'.Ended s') := by
  have hunsettled : ∀ {t : Stream} {P : Prop}, t.phase.settled = false → c.Ended t → P := by
    rintro t P hopen ⟨hsettled, -⟩
    rw [hopen] at hsettled
    cases hsettled
  rcases step_cases h with ⟨frame, rfl, -, rfl⟩ | ⟨kind, payload, rfl, -, rfl⟩ |
    ⟨j, t, rfl, ht, hphase, rfl⟩ | ⟨j, t, ctx, rfl, ht, hphase, rfl⟩ |
    ⟨j, t, ctx, rfl, ht, hphase, rfl⟩ | ⟨rfl, -, rfl⟩
  · refine ⟨s, by rwa [receive_streams], rfl, ?_⟩
    rintro ⟨hend, hdead⟩
    exact ⟨hend, fun ctx hctx => dead_receive (hdead ctx hctx)⟩
  · have hlt : i < c.streams.length := (List.getElem?_eq_some_iff.mp hs).1
    exact ⟨s, by simpa [List.getElem?_append, hlt] using hs, rfl, id⟩
  · -- a new context is not that of any stream before it
    refine ended_setPhase hs ht (hunsettled (by rw [hphase]; rfl)) fun ctx hctx hdead => ?_
    have hlt := hc.fresh s (List.mem_of_getElem? hs) ctx hctx
    simp [hdead, Nat.ne_of_lt hlt]
  · refine ended_setPhase hs ht (hunsettled (by rw [hphase]; rfl)) fun other _ hdead => ?_
    simpa using hdead
  · refine ended_setPhase hs ht ?_ fun other _ hdead => hdead
    rintro ⟨-, hdead⟩
    exact ⟨rfl, fun other hother => hdead other (by rw [hphase]; exact hother)⟩
  · refine ⟨s, hs, rfl, ?_⟩
    rintro ⟨hend, hdead⟩
    exact ⟨hend, fun ctx hctx => by simp [Client.cleanup, hdead ctx hctx]⟩

private theorem closed_step {c c' : Client} {e : Event} (h : step c e = some c')
    (hclosed : c.reader = .closed) : c'.reader = .closed := by
  rcases step_cases h with ⟨frame, rfl, hreader, rfl⟩ | ⟨kind, payload, rfl, hreader, rfl⟩ |
    ⟨j, t, rfl, ht, hphase, rfl⟩ | ⟨j, t, ctx, rfl, ht, hphase, rfl⟩ |
    ⟨j, t, ctx, rfl, ht, hphase, rfl⟩ | ⟨rfl, hreader, rfl⟩ <;>
    simp_all [Client.setPhase]

theorem Owned.single {c : Client} (hc : Owned c) {i j : Nat} {kind : StreamKind}
    {container : String} (hi : c.Uncancelled i kind container)
    (hj : c.Uncancelled j kind container) : i = j := by
  obtain ⟨s, ctx, hs, hskind, hsid, hctx, hlive⟩ := hi
  obtain ⟨t, ctx', ht, htkind, htid, hctx', hlive'⟩ := hj
  have hkey : t.key = s.key := by
    unfold Stream.key
    rw [hskind, hsid, htkind, htid]
  by_contra hne
  cases hsettled : s.phase.settled with
  | false => exact (hc.pending i j s t hs hsettled ht hkey (Ne.symm hne)).2 ctx' hctx' hlive'
  | true =>
      cases hsettled' : t.phase.settled with
      | false => exact (hc.pending j i t s ht hsettled' hs hkey.symm hne).2 ctx hctx hlive
      | true =>
          -- one table entry cannot own two contexts
          have hholds := hc.held i s ctx hs hsettled hctx hlive
          have hholds' := hc.held j t ctx' ht hsettled' hctx' hlive'
          rw [hkey] at hholds'
          cases hholds.unique hholds'
          exact hne (hc.distinct i j s t ctx hs ht hctx hctx')

private theorem ended_of_unsubscribe {c : Client} (hc : Owned c) {frame : Frame}
    {kind : StreamKind} {payload : SubscribePayload}
    (haction : frame.action = some (.unsubscribe kind payload))
    (hsettled : Settled c (.receive frame)) {i : Nat} {s : Stream}
    (hs : c.streams[i]? = some s) (hkey : s.key = kind.key payload.containerID) :
    (c.receive frame).Ended s := by
  have hregistered := hsettled _ haction s (List.mem_of_getElem? hs) hkey
  refine ⟨hregistered, fun ctx hctx => ?_⟩
  rcases receive_cases c frame with ⟨h, -⟩ | ⟨_, _, h, -⟩ | ⟨kind', payload', h, heq⟩
  · rw [haction] at h
    cases h
  · rw [haction] at h
    cases h
  · rw [haction] at h
    cases h
    simp only [heq, Client.cancelStream, CancelRegistry.live_cancelKey, not_and, not_not]
    intro hlive
    rw [← hkey]
    exact hc.held i s ctx hs hregistered hctx hlive

/-- In a run in which no message and no disconnect overtakes the registration of
a stream it is about, no stream is ever left running. -/
theorem settled_run_tidy (events : List Event) (c : Client)
    (hrun : machine.Run Settled events c) : Tidy events c where
  single _ _ _ _ hi hj := (owned_run hrun).single hi hj
  unsubscribed before frame after kind payload c₁ hevents haction hbefore i hi hregistered := by
    subst hevents
    let ends (n : Nat) (c : Client) : Prop := ∀ i < n, ∃ s, c.streams[i]? = some s ∧
      (s.key = kind.key payload.containerID → c.Ended s)
    obtain ⟨d, c₂, hd, hsettled, hstep, hkeep⟩ := hrun.since (J := ends c₁.streams.length) (by
      intro es d e d' hd _ _ hstep hJ k hk
      obtain ⟨s, hs, hend⟩ := hJ k hk
      obtain ⟨s', hs', hkey, hend'⟩ := ended_step (owned_run hd) hstep hs
      exact ⟨s', hs', fun h => hend' (hend (hkey ▸ h))⟩)
    cases hd.deterministic hbefore
    obtain ⟨s, hs, hend⟩ := hkeep (by
      intro k hk
      obtain ⟨s, hs⟩ : ∃ s, c₁.streams[k]? = some s := ⟨_, List.getElem?_eq_getElem hk⟩
      obtain rfl := step_receive hstep
      refine ⟨s, by rwa [receive_streams], fun hkey => ?_⟩
      exact ended_of_unsubscribe (owned_run hd) haction hsettled hs hkey) i hi
    rintro ⟨t, ctx, ht, hkind, hid, hctx, hlive⟩
    cases hs.symm.trans ht
    exact (hend (by rw [Stream.key, hkind, hid])).2 ctx hctx hlive
  cleaned before after hevents i kind container := by
    subst hevents
    obtain ⟨d, c₂, -, -, hstep, hkeep⟩ := hrun.since (J := fun d => d.reader = .closed)
      fun _ _ _ _ _ _ _ hstep hclosed => closed_step hstep hclosed
    have hclosed := hkeep (by rw [step_disconnect hstep])
    rintro ⟨s, ctx, hs, -, -, hctx, hlive⟩
    exact ((owned_run hrun).closed hclosed s (List.mem_of_getElem? hs)).2 ctx hctx hlive

def logsMessage (event : String) : Event :=
  .receive (.message ⟨event, some ⟨"web", "local"⟩⟩)

def orderlySchedule : List Event :=
  [logsMessage "logs:subscribe", .spawn, .create 0, .register 0,
    logsMessage "logs:subscribe", .spawn, .create 1, .register 1, .finish 0,
    logsMessage "logs:unsubscribe", .disconnect]

theorem settled_run_tidy_orderly :
    ∃ c, machine.Run Settled orderlySchedule c ∧ Tidy orderlySchedule c := by
  have hrun := Machine.run_of_runGuarded machine Settled orderlySchedule rfl
  exact ⟨_, hrun, settled_run_tidy _ _ hrun⟩

/-- A second subscribe that overtakes the registration of the first stream: both
streams register under one key and neither is cancelled. -/
def doubledSubscribe : List Event :=
  [logsMessage "logs:subscribe", .spawn, logsMessage "logs:subscribe", .spawn,
    .create 0, .register 0, .create 1, .register 1]

theorem doubledSubscribe_not_tidy :
    ∃ c, machine.Run Machine.unguarded doubledSubscribe c ∧ ¬ Tidy doubledSubscribe c := by
  have hrun := Machine.run_of_runGuarded machine Machine.unguarded doubledSubscribe rfl
  refine ⟨_, hrun, fun htidy => ?_⟩
  have hsame := htidy.single 0 1 .logs "web"
    ⟨⟨.logs, ⟨"web", "local"⟩, .registered 0⟩, 0, rfl, rfl, rfl, rfl, rfl⟩
    ⟨⟨.logs, ⟨"web", "local"⟩, .registered 1⟩, 1, rfl, rfl, rfl, rfl, rfl⟩
  cases hsame

end Wiremap.Ws.Hub

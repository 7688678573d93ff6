import Wiremap.Service.WatchService

/-! Which runs of a watch lose no change.  A loop hands over from one watch to the
next through a fresh List, so what changed between the two is skipped; a run is
safe exactly when other notifications cover those gaps. -/
namespace Wiremap.Service.Watch

open Wiremap.Kube Wiremap.Library

/-- What holds of a loop as long as every resumption handed over. -/
structure Tracks (s : Watcher) (l : Loop) : Prop where
  begun : ∀ rv, l.phase = .listed rv ∨ l.phase = .watching rv → l.firstList ≠ none
  noted : ∀ first ∈ l.firstList, s.Covered l.kind first l.reached
  bounds : ∀ first ∈ l.firstList, first ≤ l.reached ∧ l.reached ≤ s.log.version
  listed : ∀ rv, l.phase = .listed rv → l.reached ≤ rv ∧ rv ≤ s.log.version
  watching : ∀ since, l.phase = .watching since → since ≤ l.reached

theorem Tracks.extend {s s' : Watcher} {l : Loop} (h : Tracks s l) (hext : s.Extends s') :
    Tracks s' l where
  begun := h.begun
  noted first hfirst := (h.noted first hfirst).extend hext (h.bounds first hfirst).2
  bounds first hfirst :=
    ⟨(h.bounds first hfirst).1, Nat.le_trans (h.bounds first hfirst).2 hext.version⟩
  listed rv hphase :=
    ⟨(h.listed rv hphase).1, Nat.le_trans (h.listed rv hphase).2 hext.version⟩
  watching := h.watching

theorem Tracks.safe {s : Watcher} {l : Loop} (h : Tracks s l) :
    ∀ first ∈ l.firstList, ∀ since, l.phase = .watching since → s.Covered l.kind first since := by
  intro first hfirst since hphase v hv
  exact h.noted first hfirst v (Nat.le_trans hv (h.watching since hphase))

private theorem Tracks.idle {s : Watcher} {l : Loop} (h : Tracks s l) {phase : Phase}
    (hlisted : ∀ rv, phase ≠ .listed rv) (hwatching : ∀ since, phase ≠ .watching since) :
    Tracks s { l with phase := phase } where
  begun rv hphase := by
    rcases hphase with h' | h'
    · exact absurd h' (hlisted rv)
    · exact absurd h' (hwatching rv)
  noted := h.noted
  bounds := h.bounds
  listed rv hphase := absurd hphase (hlisted rv)
  watching since hphase := absurd hphase (hwatching since)

private theorem tracks_list {s : Watcher} {l : Loop} (h : Tracks s l) :
    Tracks s { l with
      phase := .listed s.log.version
      firstList := l.firstList.or (some s.log.version)
      reached := if l.firstList = none then s.log.version else l.reached } := by
  cases hfirst : l.firstList with
  | none =>
      constructor
      · simp
      · simpa using covered_self s l.kind s.log.version
      · simp
      · simp
      · simp
  | some first =>
      have hnoted := h.noted first hfirst
      have hbounds := h.bounds first hfirst
      constructor
      · simp
      · simpa using hnoted
      · simpa using hbounds
      · simpa using hbounds.2
      · simp

private theorem tracks_resume {s : Watcher} {l : Loop} (h : Tracks s l) {rv : Nat}
    (hphase : l.phase = .listed rv) (hcover : s.Covered l.kind l.reached rv) :
    Tracks s { l with phase := .watching rv, reached := rv } where
  begun _ _ := h.begun rv (.inl hphase)
  noted first hfirst := (h.noted first hfirst).glue hcover
  bounds first hfirst := by
    have hbounds := h.bounds first hfirst
    have hlisted := h.listed rv hphase
    exact ⟨Nat.le_trans hbounds.1 hlisted.1, hlisted.2⟩
  listed _ hother := by cases hother
  watching since hsame := by
    cases hsame
    exact Nat.le_refl _

private theorem tracks_deliver {s : Watcher} {l : Loop} (h : Tracks s l) {since v : Nat}
    (hphase : l.phase = .watching since) (hnext : s.log.nextAfter l.kind l.reached = some v)
    (hnotified : s.log.version ∈ s.notifies) : Tracks s { l with reached := v } := by
  obtain ⟨hat, hlt⟩ := ChangeLog.at_of_nextAfter hnext
  constructor
  · exact h.begun
  · intro first hfirst w hw hlo hatw
    rcases ChangeLog.le_or_eq_of_nextAfter hnext hatw hw with hold | rfl
    · exact h.noted first hfirst w hold hlo hatw
    · exact ⟨_, hnotified, hat.le⟩
  · intro first hfirst
    have hbounds := h.bounds first hfirst
    exact ⟨Nat.le_of_lt (Nat.lt_of_le_of_lt hbounds.1 hlt), hat.le⟩
  · intro rv hother
    cases hphase.symm.trans hother
  · intro other hother
    exact Nat.le_of_lt (Nat.lt_of_le_of_lt (h.watching other hother) hlt)

/-- One case for each way a loop moves; only a resumption needs the hand-over. -/
theorem Tracks.step {s : Watcher} {l l' : Loop} {e : LoopEvent} (h : Tracks s l)
    (hstep : l.step s.log e = some l')
    (hcover : e = .watchStarted → ∀ rv ∈ l.resumption, s.Covered l.kind l.reached rv)
    (hnotified : e.notifies = true → s.log.version ∈ s.notifies) : Tracks s l' := by
  unfold Loop.step at hstep
  split at hstep
  · obtain rfl := Option.some.inj hstep
    exact tracks_list h
  · obtain rfl := Option.some.inj hstep
    split
    · exact h.idle (by simp) (by simp)
    · exact h.idle (by simp) (by simp)
  · rename_i rv hphase
    obtain rfl := Option.some.inj hstep
    exact tracks_resume h hphase (hcover rfl rv (by simp [Loop.resumption, hphase]))
  · obtain rfl := Option.some.inj hstep
    exact h.idle (by simp) (by simp)
  · rename_i since hphase
    obtain ⟨v, hnext, hrest⟩ := Option.bind_eq_some_iff.mp hstep
    obtain rfl := Option.some.inj hrest
    exact tracks_deliver h hphase hnext (hnotified rfl)
  · obtain rfl := Option.some.inj hstep
    exact h
  · obtain rfl := Option.some.inj hstep
    exact h.idle (by simp) (by simp)
  · obtain rfl := Option.some.inj hstep
    exact h.idle (by simp) (by simp)
  · obtain rfl := Option.some.inj hstep
    exact h.idle (by simp) (by simp)
  · cases hstep

theorem Loop.phase_of_resumption {l : Loop} {rv : Nat} (h : rv ∈ l.resumption) :
    l.phase = .listed rv := by
  unfold Loop.resumption at h
  split at h
  · rename_i hphase
    rwa [← Option.some.inj h]
  · cases h

def AllTracked (s : Watcher) : Prop := ∀ l ∈ s.loops, Tracks s l

theorem allTracked_watch (serves : WatchKind → Bool) (ns : String) :
    AllTracked (watch serves ns) := by
  intro l hl
  obtain ⟨kind, -, rfl⟩ := List.mem_map.mp hl
  constructor <;> simp

theorem AllTracked.step {s s' : Watcher} {e : Event} (h : AllTracked s) (hguard : HandsOver s e)
    (hstep : Watch.step s e = some s') : AllTracked s' := by
  obtain ⟨hext, ⟨hloops, -⟩ | ⟨i, le, l, l', rfl, hl, hl', hloops, hlog, hnotifies⟩⟩ :=
    step_cases hstep
  · intro l hmem
    rw [hloops] at hmem
    exact (h l hmem).extend hext
  · intro other hmem
    rw [hloops] at hmem
    rcases List.mem_or_eq_of_mem_set hmem with hold | rfl
    · exact (h other hold).extend hext
    · have hmem : l ∈ s.loops := List.mem_of_getElem? hl
      have htracks := (h l hmem).extend hext
      rw [← hlog] at hl'
      refine htracks.step hl' ?_ fun h => by simp [hnotifies, h, hlog]
      rintro rfl rv hrv
      refine Watcher.Covered.extend (hguard l hl rv hrv) hext ?_
      exact ((h l hmem).listed rv (Loop.phase_of_resumption hrv)).2

theorem AllTracked.nothingLost {s : Watcher} (h : AllTracked s) : NothingLost s :=
  fun l hl => (h l hl).safe

theorem tracked_run {serves : WatchKind → Bool} {ns : String} {es : List Event} {s : Watcher}
    (hrun : (machine serves ns).Run HandsOver es s) : AllTracked s :=
  hrun.invariant (allTracked_watch serves ns) fun _ _ _ h hguard hstep => h.step hguard hstep

theorem handsOver_of_nothingLost {s s' : Watcher} {e : Event} (h : AllTracked s)
    (hstep : step s e = some s') (hsafe : NothingLost s') : HandsOver s e := by
  unfold HandsOver
  split
  · rename_i i
    intro l hl rv hrv v hv hreached hat
    obtain ⟨-, ⟨-, hnot⟩ | ⟨j, le, l₀, l', hevent, hl₀, hl', hloops, hlog, hnotifies⟩⟩ :=
      step_cases hstep
    · exact absurd rfl (hnot i .watchStarted)
    · cases hevent
      cases Option.some.inj (hl.symm.trans hl₀)
      have hphase := Loop.phase_of_resumption hrv
      simp only [Loop.step, hphase, Option.some_inj] at hl'
      have htracks := h l (List.mem_of_getElem? hl)
      obtain ⟨first, hfirst⟩ := Option.ne_none_iff_exists'.mp (htracks.begun rv (.inl hphase))
      have hlo := Nat.lt_of_le_of_lt (htracks.bounds first hfirst).1 hreached
      have hmem : l' ∈ s'.loops := by
        rw [hloops]
        exact List.mem_set (List.getElem?_eq_some_iff.mp hl).1 _
      subst hl'
      have hnoted := hsafe _ hmem first hfirst rv rfl v hv hlo (hlog ▸ hat)
      simpa [Watcher.Notified, hnotifies, LoopEvent.notifies] using hnoted
  · trivial

/-- A run never resumes past a change without a `notify` after it exactly when
every resumption of the run hands over. -/
theorem nothingLost_iff_handsOver (serves : WatchKind → Bool) (ns : String) (es : List Event)
    (s : Watcher) (hrun : (machine serves ns).Run Machine.unguarded es s) :
    (∀ before after t, es = before ++ after →
        (machine serves ns).Run Machine.unguarded before t → NothingLost t) ↔
      (machine serves ns).Run HandsOver es s := by
  refine Machine.Run.always_iff (allTracked_watch serves ns).nothingLost ?_ hrun
  intro before t e t' hbefore hstep
  have htracked := tracked_run hbefore
  constructor
  · intro hguard
    exact (htracked.step hguard hstep).nothingLost
  · intro hsafe
    exact handsOver_of_nothingLost htracked hstep hsafe

def podsOnly : WatchKind → Bool := fun kind => kind = ⟨"", "Pod"⟩

def handedOverSession : List Event :=
  [.loop 0 .listReturned, .loop 0 .watchStarted, .changed ⟨"", "Pod"⟩,
    .loop 0 (.delivered .changed), .debounce, .fire, .loop 0 .watchEnded,
    .loop 0 .listReturned, .unrelated, .loop 0 .watchStarted]

theorem nothingLost_iff_handsOver_session :
    ∃ s, (machine podsOnly "shop").Run HandsOver handedOverSession s ∧
      ∀ before after t, handedOverSession = before ++ after →
        (machine podsOnly "shop").Run Machine.unguarded before t → NothingLost t := by
  have hrun := Machine.run_of_runGuarded (machine podsOnly "shop") HandsOver handedOverSession rfl
  exact ⟨_, hrun, (nothingLost_iff_handsOver podsOnly "shop" _ _ hrun.unguard).mpr hrun⟩

/-- A pod changes after the server ended the watch and before the next List. -/
def gapSession : List Event :=
  [.loop 0 .listReturned, .loop 0 .watchStarted, .loop 0 .watchEnded,
    .changed ⟨"", "Pod"⟩, .loop 0 .listReturned, .loop 0 .watchStarted]

theorem gapSession_loses_change :
    ∃ s, (machine podsOnly "shop").Run Machine.unguarded gapSession s ∧ ¬ NothingLost s := by
  have hrun := Machine.run_of_runGuarded (machine podsOnly "shop") Machine.unguarded gapSession rfl
  refine ⟨_, hrun, fun hsafe => ?_⟩
  have hnotified := hsafe _ (List.mem_singleton.mpr rfl) 0 rfl 1 rfl 1 (by decide) (by decide)
    (by decide)
  exact absurd hnotified (by decide)

def CaughtUp (s : Watcher) (l : Loop) : Prop := ∀ v, s.log.At l.kind v → v ≤ l.reached

/-- No object changes between two watches, and no watch ends with changes left. -/
def Gapless (s : Watcher) : Event → Prop
  | .changed kind => ∀ l ∈ s.loops, l.kind = kind → l.firstList ≠ none →
      l.phase ≠ .listing ∧ l.phase ≠ .sleeping
  | .loop i .watchEnded | .loop i .watchFailed | .loop i (.delivered .error) =>
      ∀ l ∈ s.loops[i]?, CaughtUp s l
  | _ => True

structure Settled (s : Watcher) (l : Loop) : Prop where
  between : l.firstList ≠ none → l.phase = .listing ∨ l.phase = .sleeping → CaughtUp s l
  listed : ∀ rv, l.phase = .listed rv →
    rv ≤ s.log.version ∧ ∀ v ≤ rv, s.log.At l.kind v → v ≤ l.reached

theorem Settled.quiet {s s' : Watcher} {l : Loop} (h : Settled s l) (hext : s.Extends s')
    (hsame : l.firstList ≠ none → l.phase = .listing ∨ l.phase = .sleeping →
      ∀ v, s'.log.At l.kind v → s.log.At l.kind v) : Settled s' l where
  between hfirst hphase v hat := h.between hfirst hphase v (hsame hfirst hphase v hat)
  listed rv hphase := by
    obtain ⟨hle, hcover⟩ := h.listed rv hphase
    refine ⟨Nat.le_trans hle hext.version, fun v hv hat => ?_⟩
    exact hcover v hv (hext.older _ v hat (Nat.le_trans hv hle))

private theorem settled_loop {s : Watcher} {l l' : Loop} {e : LoopEvent} (h : Settled s l)
    (hends : e = .watchEnded ∨ e = .watchFailed ∨ e = .delivered .error → CaughtUp s l)
    (hstep : l.step s.log e = some l') : Settled s l' := by
  unfold Loop.step at hstep
  split at hstep
  · rename_i hphase
    obtain rfl := Option.some.inj hstep
    constructor
    · simp
    · rintro rv hrv
      obtain rfl := Phase.listed.inj hrv
      refine ⟨Nat.le_refl _, fun v hv hat => ?_⟩
      by_cases hfirst : l.firstList = none
      · simpa [hfirst] using hv
      · simpa [hfirst] using h.between hfirst (.inl hphase) v hat
  · rename_i hphase
    obtain rfl := Option.some.inj hstep
    constructor
    · intro hfirst _
      exact h.between hfirst (.inl hphase)
    · intro rv hrv
      dsimp only at hrv
      split at hrv <;> cases hrv
  · obtain rfl := Option.some.inj hstep
    constructor <;> simp
  · obtain rfl := Option.some.inj hstep
    exact ⟨fun _ _ => hends (.inr (.inl rfl)), by simp⟩
  · rename_i hphase
    obtain ⟨v, -, hrest⟩ := Option.bind_eq_some_iff.mp hstep
    obtain rfl := Option.some.inj hrest
    constructor <;> simp [hphase]
  · obtain rfl := Option.some.inj hstep
    exact h
  · obtain rfl := Option.some.inj hstep
    exact ⟨fun _ _ => hends (.inr (.inr rfl)), by simp⟩
  · obtain rfl := Option.some.inj hstep
    exact ⟨fun _ _ => hends (.inl rfl), by simp⟩
  · rename_i hphase
    obtain rfl := Option.some.inj hstep
    exact ⟨fun hfirst _ => h.between hfirst (.inr hphase), by simp⟩
  · cases hstep

theorem settled_step {s s' : Watcher} {e : Event} (h : ∀ l ∈ s.loops, Settled s l)
    (hguard : Gapless s e) (hstep : step s e = some s') : ∀ l ∈ s'.loops, Settled s' l := by
  obtain ⟨hext, ⟨hloops, -⟩ | ⟨i, le, l, l', rfl, hl, hl', hloops, hlog, -⟩⟩ := step_cases hstep
  · intro l hmem
    rw [hloops] at hmem
    refine (h l hmem).quiet hext fun hfirst hphase v hat => ?_
    rcases at_step hstep hat with hold | ⟨rfl, -⟩
    · exact hold
    · have hwatched := hguard l hmem rfl hfirst
      simp_all
  · have hquiet : ∀ other ∈ s.loops, Settled s' other := fun other hmem =>
      (h other hmem).quiet hext fun _ _ v hat => hlog ▸ hat
    intro other hmem
    rw [hloops] at hmem
    rcases List.mem_or_eq_of_mem_set hmem with hold | rfl
    · exact hquiet other hold
    · refine settled_loop (hquiet l (List.mem_of_getElem? hl)) ?_ (hlog ▸ hl')
      unfold CaughtUp
      rw [hlog]
      rintro (rfl | rfl | rfl)
      · exact hguard l hl
      · exact hguard l hl
      · exact hguard l hl

/-- Objects that change only while they are watched, and watches that end only
when they have handed out everything, leave no gap. -/
theorem gapless_run {serves : WatchKind → Bool} {ns : String} {es : List Event} {s : Watcher}
    (hrun : (machine serves ns).Run Gapless es s) :
    (machine serves ns).Run HandsOver es s ∧ ∀ l ∈ s.loops, Settled s l := by
  induction hrun with
  | init =>
      refine ⟨.init, fun l hl => ?_⟩
      obtain ⟨kind, -, rfl⟩ := List.mem_map.mp hl
      constructor <;> simp
  | snoc _ hguard hstep ih =>
      rename_i before t e t'
      obtain ⟨hprev, hsettled⟩ := ih
      refine ⟨.snoc hprev ?_ hstep, settled_step hsettled hguard hstep⟩
      unfold HandsOver
      split
      · intro l hl rv hrv v hv hlt hat
        have hphase := Loop.phase_of_resumption hrv
        have hle := (hsettled l (List.mem_of_getElem? hl)).2 rv hphase |>.2 v hv hat
        exact absurd hlt (Nat.not_lt_of_le hle)
      · trivial

def Debounced (s : Watcher) : Prop :=
  ∀ n ∈ s.notifies, s.pending = true ∨ s.waiting = true ∨ ∃ f ∈ s.fired, n ≤ f

theorem debounced_step {s s' : Watcher} {e : Event} (h : Debounced s)
    (hbound : ∀ n ∈ s.notifies, n ≤ s.log.version) (hstep : step s e = some s') :
    Debounced s' ∧ ∀ n ∈ s'.notifies, n ≤ s'.log.version := by
  unfold step at hstep
  split at hstep
  · cases e with
    | changed kind =>
        obtain rfl := Option.some.inj hstep
        exact ⟨h, fun n hn => Nat.le_succ_of_le (hbound n hn)⟩
    | unrelated =>
        obtain rfl := Option.some.inj hstep
        exact ⟨h, fun n hn => Nat.le_succ_of_le (hbound n hn)⟩
    | loop i le =>
        simp only [Watcher.stepLoop, Option.bind_eq_bind, Option.bind_eq_some_iff,
          Option.pure_def, Option.some_inj] at hstep
        obtain ⟨_, -, _, -, rfl⟩ := hstep
        split
        · refine ⟨fun _ _ => .inl rfl, fun n hn => ?_⟩
          rcases List.mem_append.mp hn with hold | hnew
          · exact hbound n hold
          · exact Nat.le_of_eq (List.mem_singleton.mp hnew)
        · exact ⟨h, hbound⟩
    | debounce =>
        dsimp only at hstep
        split at hstep
        · obtain rfl := Option.some.inj hstep
          exact ⟨fun _ _ => .inr (.inl rfl), hbound⟩
        · cases hstep
    | fire =>
        dsimp only at hstep
        split at hstep
        · obtain rfl := Option.some.inj hstep
          exact ⟨fun n hn => .inr (.inr ⟨_, List.mem_concat_self, hbound n hn⟩), hbound⟩
        · cases hstep
    | cancelled =>
        obtain rfl := Option.some.inj hstep
        exact ⟨h, hbound⟩
  · cases hstep

/-- Once the debounce is idle, every notification has an `onChange` after it. -/
theorem notify_reaches_onChange {serves : WatchKind → Bool} {ns : String} {es : List Event}
    {s : Watcher} (hrun : (machine serves ns).Run Machine.unguarded es s)
    (hpending : s.pending = false) (hwaiting : s.waiting = false) :
    ∀ n ∈ s.notifies, ∃ f ∈ s.fired, n ≤ f := by
  have hinv := hrun.invariant (I := fun s => Debounced s ∧ ∀ n ∈ s.notifies, n ≤ s.log.version)
    ⟨by simp [Debounced, machine, watch], by simp [machine, watch]⟩
    fun _ _ _ h _ hstep => debounced_step h.1 h.2 hstep
  intro n hn
  rcases hinv.1 n hn with h | h | h
  · cases hpending.symm.trans h
  · cases hwaiting.symm.trans h
  · exact h

end Wiremap.Service.Watch

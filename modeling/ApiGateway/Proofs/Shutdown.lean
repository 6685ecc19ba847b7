import ApiGateway.Shutdown
import Mathlib.Data.List.Basic

/-! # Signals and receivers

A receiver is owed the signals that were given since it subscribed, less those
that it has been told about. Every step changes what a receiver is owed by what
it gives and by what it tells, so a look at the end of any sequence of steps
finds exactly what is owed by then.
-/

namespace ApiGateway.Shutdown

abbrev Entry := Step × Reply

variable {s t u : Shutdown} {step : Step} {reply : Reply} {entries entries' : List Entry}
  {r due known : ℕ}

section Steps

inductive Takes (s : Shutdown) : Step → Reply → Shutdown → Prop

  | subscribe {h : ℕ} : s.handles[h]? = some true →
      Takes s (.subscribe h) (.index s.receivers.length)
        { s with receivers := s.receivers ++ [some s.given] }

  | trigger {h : ℕ} : s.handles[h]? = some true →
      Takes s (.trigger h) .triggered { s with given := s.given + 1 }

  | count {h : ℕ} : s.handles[h]? = some true → Takes s (.count h) (.number s.receiverCount) s

  | clone {h : ℕ} : s.handles[h]? = some true →
      Takes s (.clone h) (.index s.handles.length) { s with handles := s.handles ++ [true] }

  | dropHandle {h : ℕ} : s.handles[h]? = some true →
      Takes s (.dropHandle h) .dropped { s with handles := s.handles.set h false }

  | dropReceiver {r known : ℕ} : s.receivers[r]? = some (some known) →
      Takes s (.dropReceiver r) .dropped { s with receivers := s.receivers.set r none }

  | receive {r known : ℕ} : s.receivers[r]? = some (some known) →
      Takes s (.receive r) (.notice (s.look known).1)
        { s with receivers := s.receivers.set r (some (s.look known).2) }

theorem takes_of_step (h : s.step step = some (reply, t)) : Takes s step reply t := by
  cases step with
  | subscribe | trigger | count | clone | dropHandle =>
    simp only [Shutdown.step, Option.ite_none_right_eq_some, Option.some.injEq, Prod.mk.injEq] at h
    obtain ⟨hh, rfl, rfl⟩ := h
    constructor
    exact hh
  | dropReceiver r | receive r =>
    simp only [Shutdown.step] at h
    split at h
    · next known hr =>
      cases h
      constructor
      exact hr
    · cases h

end Steps

namespace Step

def isSubscribe : Step → Bool
  | subscribe _ => true
  | _ => false

def isTrigger : Step → Bool
  | trigger _ => true
  | _ => false

def isClone : Step → Bool
  | clone _ => true
  | _ => false

def isHandleDrop : Step → Bool
  | dropHandle _ => true
  | _ => false

def isReceiverDrop : Step → Bool
  | dropReceiver _ => true
  | _ => false

end Step

def tally (kind : Step → Bool) (entries : List Entry) : ℕ := entries.countP (kind ·.1)

def Notice.signals : Notice → ℕ
  | received => 1
  | lagged missed => missed
  | empty | closed => 0

/-- The number of signals that a step tells a receiver about. -/
def toldBy (r : ℕ) : Entry → ℕ
  | (.receive k, .notice notice) => if k = r then notice.signals else 0
  | _ => 0

/-- The number of signals that the steps tell a receiver about. -/
def told (r : ℕ) : List Entry → ℕ
  | [] => 0
  | entry :: entries => toldBy r entry + told r entries

theorem told_append (r : ℕ) (entries entries' : List Entry) :
    told r (entries ++ entries') = told r entries + told r entries' := by
  induction entries with
  | nil => simp [told]
  | cons entry entries ih => simp [told, ih, Nat.add_assoc]

/-- Some handle is still held: not all that were ever made have been dropped. -/
def HandleHeld (entries : List Entry) : Prop :=
  tally Step.isHandleDrop entries < 1 + tally Step.isClone entries

section Effect

/-- What steps from one state to another change. -/
structure Effect (s : Shutdown) (entries : List Entry) (t : Shutdown) : Prop where
  given_eq : t.given = s.given + tally Step.isTrigger entries
  handles : t.handles.countP id + tally Step.isHandleDrop entries =
    s.handles.countP id + tally Step.isClone entries
  receivers : t.receiverCount + tally Step.isReceiverDrop entries =
    s.receiverCount + tally Step.isSubscribe entries
  kept : ∀ (r known : ℕ), s.receivers[r]? = some (some known) →
    (.dropReceiver r, .dropped) ∉ entries → t.receivers[r]? = some (some (known + told r entries))

theorem Effect.trans (h : Effect s entries t) (h' : Effect t entries' u) :
    Effect s (entries ++ entries') u where
  given_eq := by
    have := h.given_eq
    have := h'.given_eq
    simp only [tally, List.countP_append] at *
    omega
  handles := by
    have := h.handles
    have := h'.handles
    simp only [tally, List.countP_append] at *
    omega
  receivers := by
    have := h.receivers
    have := h'.receivers
    simp only [tally, List.countP_append] at *
    omega
  kept r known hr hd := by
    rw [List.mem_append, not_or] at hd
    rw [told_append, ← Nat.add_assoc]
    exact h'.kept r _ (h.kept r known hr hd.1) hd.2

theorem receiverCount_eq (s : Shutdown) : s.receiverCount = s.receivers.countP Option.isSome :=
  List.countP_eq_length_filter.symm

theorem countP_set_eq {α : Type} {p : α → Bool} {l : List α} {i : ℕ} {a b : α}
    (h : l[i]? = some a) :
    (l.set i b).countP p + (if p a then 1 else 0) = l.countP p + if p b then 1 else 0 := by
  obtain ⟨hi, rfl⟩ := List.getElem?_eq_some_iff.mp h
  rw [List.countP_set hi]
  have hle : (if p l[i] then 1 else 0) ≤ l.countP p := by
    split
    · next hp => exact List.countP_pos_iff.mpr ⟨_, List.getElem_mem hi, hp⟩
    · exact Nat.zero_le _
  omega

theorem look_snd (h : known ≤ s.given) :
    (s.look known).2 = known + (s.look known).1.signals := by
  unfold look
  split
  · split <;> rfl
  · rfl
  · simp only [Notice.signals]
    omega

theorem look_snd_le (h : known ≤ s.given) : (s.look known).2 ≤ s.given := by
  unfold look
  split
  · exact h
  · simp only
    omega
  · exact Nat.sub_le _ _

/-- No receiver knows of signals that are still to be given. -/
def Sound (s : Shutdown) : Prop := ∀ known, some known ∈ s.receivers → known ≤ s.given

theorem Takes.effect (hs : s.Sound) (h : Takes s step reply t) : Effect s [(step, reply)] t := by
  cases h with
  | subscribe hh =>
    refine ⟨rfl, rfl, ?_, fun r known hr _ => ?_⟩
    · simp [receiverCount_eq, tally, Step.isSubscribe, Step.isReceiverDrop]
    · exact (List.getElem?_append_left (List.getElem?_eq_some_iff.mp hr).1).trans hr
  | trigger | count => exact ⟨rfl, rfl, rfl, fun r known hr _ => hr⟩
  | clone hh =>
    refine ⟨rfl, ?_, rfl, fun r known hr _ => hr⟩
    simp [tally, Step.isHandleDrop, Step.isClone]
  | dropHandle hh =>
    refine ⟨rfl, ?_, rfl, fun r known hr _ => hr⟩
    have hset := countP_set_eq (p := id) (b := false) hh
    simpa [tally, Step.isHandleDrop, Step.isClone] using hset
  | @dropReceiver k known hk =>
    refine ⟨rfl, rfl, ?_, fun r known hr hd => ?_⟩
    · have hset := countP_set_eq (p := Option.isSome) (b := none) hk
      simpa [receiverCount_eq, tally, Step.isSubscribe, Step.isReceiverDrop] using hset
    · have hne : k ≠ r := by simpa [eq_comm] using hd
      exact (List.getElem?_set_ne hne).trans hr
  | @receive k known hk =>
    refine ⟨rfl, rfl, ?_, fun r known' hr _ => ?_⟩
    · have hset := countP_set_eq (p := Option.isSome) (b := some (s.look known).2) hk
      simpa [receiverCount_eq, tally, Step.isSubscribe, Step.isReceiverDrop] using hset
    · by_cases hne : k = r
      · subst hne
        obtain rfl : known = known' := by simpa using hk.symm.trans hr
        have hlt := (List.getElem?_eq_some_iff.mp hk).1
        simp [told, toldBy, List.getElem?_set_self hlt, look_snd (hs _ (List.mem_of_getElem? hk))]
      · simp [told, toldBy, hne, hr]

theorem Takes.sound (hs : s.Sound) (h : Takes s step reply t) : t.Sound := by
  intro known hm
  cases h with
  | subscribe hh =>
    rcases List.mem_append.mp hm with hm | hm
    · exact hs known hm
    · obtain rfl : known = s.given := by simpa using hm
      exact Nat.le_refl _
  | trigger => exact Nat.le_succ_of_le (hs known hm)
  | count | clone | dropHandle => exact hs known hm
  | dropReceiver =>
    rcases List.mem_or_eq_of_mem_set hm with hm | hm
    · exact hs known hm
    · cases hm
  | receive hk =>
    rcases List.mem_or_eq_of_mem_set hm with hm | hm
    · exact hs known hm
    · cases hm
      exact look_snd_le (hs _ (List.mem_of_getElem? hk))

end Effect

section Runs

inductive Runs : Shutdown → List Entry → Shutdown → Prop

  | refl (s : Shutdown) : Runs s [] s

  | cons {s t u : Shutdown} {step : Step} {reply : Reply} {entries : List Entry} :
      Takes s step reply t → Runs t entries u → Runs s ((step, reply) :: entries) u

theorem runs_run (s : Shutdown) (steps : List Step) :
    Runs s (steps.zip (s.run steps).1) (s.run steps).2 := by
  induction steps generalizing s with
  | nil => exact .refl s
  | cons step steps ih =>
    cases h : s.step step with
    | none =>
      simp only [run, h, List.zip_nil_right]
      exact .refl s
    | some result =>
      simp only [run, h, List.zip_cons_cons]
      exact .cons (takes_of_step h) (ih _)

theorem Runs.split (h : Runs s (entries ++ entries') u) :
    ∃ t, Runs s entries t ∧ Runs t entries' u := by
  induction entries generalizing s with
  | nil => exact ⟨s, .refl s, h⟩
  | cons entry entries ih =>
    cases h with
    | cons hstep hrest =>
      obtain ⟨t, ht, hu⟩ := ih hrest
      exact ⟨t, .cons hstep ht, hu⟩

theorem Runs.effect (hs : s.Sound) (h : Runs s entries t) : Effect s entries t ∧ t.Sound := by
  induction h with
  | refl s =>
    exact ⟨⟨rfl, rfl, rfl, fun r known hr _ => hr⟩, hs⟩
  | cons hstep _ ih =>
    obtain ⟨he, ht⟩ := ih (hstep.sound hs)
    exact ⟨(hstep.effect hs).trans he, ht⟩

theorem sound_default : Sound {} := fun _ hm => by cases hm

/-- The receiver is still held, and is owed a number of signals. -/
def Owes (s : Shutdown) (r due : ℕ) : Prop :=
  ∃ known, s.receivers[r]? = some (some known) ∧ s.given = known + due

/-- A receiver is owed what was given since it subscribed, less what it was told. -/
theorem Runs.exists_owes {before after : List Entry} {h : ℕ}
    (hrun : Runs {} (before ++ (.subscribe h, .index r) :: after) s)
    (hkept : (.dropReceiver r, .dropped) ∉ after) :
    ∃ due, tally Step.isTrigger after = told r after + due ∧ s.Owes r due := by
  obtain ⟨t, hbefore, hrest⟩ := hrun.split
  have ht := (hbefore.effect sound_default).2
  cases hrest with
  | cons hstep hafter =>
    have hsound := hstep.sound ht
    cases hstep
    obtain ⟨heffect, hs⟩ := hafter.effect hsound
    have hr := heffect.kept t.receivers.length t.given (by simp) hkept
    have hgiven := heffect.given_eq
    have hle := hs _ (List.mem_of_getElem? hr)
    refine ⟨s.given - (t.given + told t.receivers.length after), ?_, _, hr, ?_⟩
    · simp only at hgiven
      omega
    · omega

end Runs

section Notices

/-- What a receiver finds that is owed `due` signals. -/
structure Reports (isHeld : Prop) (due : ℕ) (notice : Notice) : Prop where
  empty_iff : notice = .empty ↔ due = 0 ∧ isHeld
  closed_iff : notice = .closed ↔ due = 0 ∧ ¬ isHeld
  received_iff : notice = .received ↔ due = 1
  lagged_iff : ∀ missed, notice = .lagged missed ↔ 2 ≤ due ∧ missed = due - 1

theorem reports_look (h : s.given = known + due) :
    Reports (s.isOpen = true) due (s.look known).1 := by
  obtain rfl : due = s.given - known := by omega
  unfold look
  split
  · next hd => cases ho : s.isOpen <;> constructor <;> simp [hd]
  · next hd => constructor <;> simp [hd]
  · next missed hd =>
    refine ⟨by simp [hd], by simp [hd], by simp [hd], fun m => ?_⟩
    rw [hd, Notice.lagged.injEq]
    omega

theorem isOpen_iff (h : Runs {} entries s) : s.isOpen = true ↔ HandleHeld entries := by
  have hhandles := (h.effect sound_default).1.handles
  have hone : (Shutdown.handles {}).countP id = 1 := rfl
  have hpos : s.isOpen = true ↔ 0 < s.handles.countP id := by
    simp [isOpen, List.countP_pos_iff]
  rw [hpos, HandleHeld]
  omega

theorem Owes.exists_receive (h : s.Owes r due) :
    ∃ notice next, s.step (.receive r) = some (.notice notice, next) ∧
      Reports (s.isOpen = true) due notice ∧ next.Owes r (due - notice.signals) ∧
      next.isOpen = s.isOpen := by
  obtain ⟨known, hr, hd⟩ := h
  have hlt := (List.getElem?_eq_some_iff.mp hr).1
  have hsnd : (s.look known).2 = known + (s.look known).1.signals := look_snd (by omega)
  have hle : (s.look known).2 ≤ s.given := look_snd_le (by omega)
  refine ⟨(s.look known).1, { s with receivers := s.receivers.set r (some (s.look known).2) },
    by simp only [Shutdown.step, hr], reports_look hd, ⟨(s.look known).2, ?_, ?_⟩, rfl⟩
  · exact List.getElem?_set_self hlt
  · simp only
    omega

theorem Reports.of_due_pos {isHeld : Prop} {notice : Notice} (h : Reports isHeld due notice)
    (hd : 0 < due) : notice = .received ∨ ∃ missed, notice = .lagged missed := by
  by_cases hone : due = 1
  · exact .inl (h.received_iff.mpr hone)
  · exact .inr ⟨due - 1, (h.lagged_iff _).mpr ⟨by omega, rfl⟩⟩

theorem Reports.of_due_eq_zero {isHeld : Prop} {notice : Notice} (h : Reports isHeld due notice)
    (hd : due = 0) : notice = .empty ∨ notice = .closed := by
  by_cases hheld : isHeld
  · exact .inl (h.empty_iff.mpr ⟨hd, hheld⟩)
  · exact .inr (h.closed_iff.mpr ⟨hd, hheld⟩)

/-- A receiver that lags is told so, then receives the last signal, and then is owed nothing. -/
theorem Owes.exists_receive_of_lag (h : s.Owes r due) (hd : 2 ≤ due) :
    ∃ next next' last final,
      s.step (.receive r) = some (.notice (.lagged (due - 1)), next) ∧
      next.step (.receive r) = some (.notice .received, next') ∧
      next'.step (.receive r) = some (.notice last, final) ∧
      Reports (s.isOpen = true) 0 last := by
  obtain ⟨notice, next, hstep, hreport, howes, hopen⟩ := h.exists_receive
  obtain rfl := (hreport.lagged_iff (due - 1)).mpr ⟨hd, rfl⟩
  have hone : due - (Notice.lagged (due - 1)).signals = 1 := by
    simp only [Notice.signals]
    omega
  rw [hone] at howes
  obtain ⟨notice', next', hstep', hreport', howes', hopen'⟩ := howes.exists_receive
  obtain rfl := hreport'.received_iff.mpr rfl
  obtain ⟨last, final, hstep'', hreport'', -, -⟩ := howes'.exists_receive
  rw [hopen', hopen] at hreport''
  exact ⟨next, next', last, final, hstep, hstep', hstep'', hreport''⟩

theorem told_eq_zero (h : ∀ notice, (.receive r, .notice notice) ∉ entries) :
    told r entries = 0 := by
  induction entries with
  | nil => rfl
  | cons entry entries ih =>
    have hentry : toldBy r entry = 0 := by
      unfold toldBy
      split
      · next k notice =>
        rw [if_neg]
        rintro rfl
        exact h notice List.mem_cons_self
      · rfl
    rw [told, hentry, ih fun notice hm => h notice (List.mem_cons_of_mem _ hm)]

theorem Runs.due_pos {before middle after : List Entry} {h h' : ℕ}
    (hrun : Runs {} (before ++ (.subscribe h, .index r) ::
      (middle ++ (.trigger h', .triggered) :: after)) s)
    (hkept : (.dropReceiver r, .dropped) ∉ middle ++ (.trigger h', .triggered) :: after)
    (hlast : ∀ notice, (.receive r, .notice notice) ∉ after)
    (hdue : tally Step.isTrigger (middle ++ (.trigger h', .triggered) :: after) =
      told r (middle ++ (.trigger h', .triggered) :: after) + due) : 0 < due := by
  have hsplit : Runs {} ((before ++ (.subscribe h, .index r) :: middle) ++
      (.trigger h', .triggered) :: after) s := by
    simpa using hrun
  obtain ⟨t, ht, -⟩ := hsplit.split
  obtain ⟨due', hmiddle, -⟩ := ht.exists_owes fun hm => hkept (List.mem_append_left _ hm)
  have hafter := told_eq_zero hlast
  simp only [tally, told_append, told, toldBy, hafter, List.countP_append, List.countP_cons,
    Step.isTrigger, if_true] at hdue hmiddle
  omega

end Notices

section Main

def history (steps : List Step) : List Entry := steps.zip (run {} steps).1

def reached (steps : List Step) : Shutdown := (run {} steps).2

theorem runs_history (steps : List Step) : Runs {} (history steps) (reached steps) :=
  runs_run {} steps

/-- What a receiver finds that has been held since it subscribed, with the steps after that. -/
structure Informed (s : Shutdown) (isHeld : Prop) (r : ℕ) (after : List Entry) (due : ℕ)
    (notice : Notice) : Prop where
  due_eq : tally Step.isTrigger after = told r after + due
  found : ∃ next, s.step (.receive r) = some (.notice notice, next)
  reports : Reports isHeld due notice
  /-- After a lag one signal is still due, and nothing is due when that is received. -/
  after_lag : 2 ≤ due → ∃ next next' last final,
    s.step (.receive r) = some (.notice notice, next) ∧
    next.step (.receive r) = some (.notice .received, next') ∧
    next'.step (.receive r) = some (.notice last, final) ∧ Reports isHeld 0 last
  /-- A signal that was given after the last look is found, whatever became of the handles. -/
  reached : ∀ middle h rest, after = middle ++ (.trigger h, .triggered) :: rest →
    (∀ earlier, (.receive r, .notice earlier) ∉ rest) →
    notice = .received ∨ ∃ missed, notice = .lagged missed
  unreached : tally Step.isTrigger after = 0 → notice = .empty ∨ notice = .closed

/-- Whatever steps are taken, a receiver that is still held finds what was given since it
subscribed and what it was not told before. The receivers that are counted are those that
subscribed and were not dropped. -/
theorem receivers_informed (steps : List Step) :
    (∀ before after h r, history steps = before ++ (.subscribe h, .index r) :: after →
      (.dropReceiver r, .dropped) ∉ after →
      ∃ due notice,
        Informed (reached steps) (HandleHeld (history steps)) r after due notice) ∧
    ∀ h reply next, (reached steps).step (.count h) = some (reply, next) →
      next = reached steps ∧ ∃ n, reply = .number n ∧
        n + tally Step.isReceiverDrop (history steps) =
          tally Step.isSubscribe (history steps) := by
  have hrun := runs_history steps
  constructor
  · intro before after h r hh hkept
    have hheld := isOpen_iff hrun
    rw [hh] at hrun
    obtain ⟨due, hdue, howes⟩ := hrun.exists_owes hkept
    obtain ⟨notice, next, hstep, hreport, -, -⟩ := howes.exists_receive
    rw [← hheld]
    refine ⟨due, notice, hdue, ⟨next, hstep⟩, hreport, fun hlag => ?_, ?_, fun hz => ?_⟩
    · obtain rfl := (hreport.lagged_iff _).mpr ⟨hlag, rfl⟩
      exact howes.exists_receive_of_lag hlag
    · rintro middle h' rest rfl hlast
      exact hreport.of_due_pos (hrun.due_pos hkept hlast hdue)
    · exact hreport.of_due_eq_zero (by omega)
  · intro h reply next hstep
    cases takes_of_step hstep with
    | count =>
      refine ⟨rfl, _, rfl, ?_⟩
      have hreceivers := (hrun.effect sound_default).1.receivers
      exact hreceivers.trans (Nat.zero_add _)

/-- Three signals are given while nobody looks, and then the last handle is dropped. -/
example :
    (run {} [.subscribe 0, .trigger 0, .trigger 0, .trigger 0, .dropHandle 0, .receive 0,
      .receive 0, .receive 0]).1 =
    [.index 0, .triggered, .triggered, .triggered, .dropped, .notice (.lagged 2),
      .notice .received, .notice .closed] := by decide

end Main

end ApiGateway.Shutdown

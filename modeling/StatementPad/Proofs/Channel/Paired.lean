import StatementPad.Proofs.Channel.Wiring

/-! # Replies belong to their calls

Whatever the processes write, and however callers give up and processes are replaced: a call is completed at most
once, and if by a reply, then by the first one with its number, from the process that the call was sent to.
-/
namespace StatementPad.Channel

def Event.process? : Event → Option Nat
  | .sent process _ _ _ | .wrote process _ | .read process _ => some process
  | .called _ | .replaced _ | .completed _ _ => none

def Event.Brings (event : Event) (process : Nat) (e : Wire.Envelope Wire.Reply) : Prop :=
  ∃ t, event = .read process (.line t) ∧ Wire.Envelope.read? t = some e

abbrev EventAt (h : List Event) (i : Nat) (event : Event) : Prop := h[i]? = some event

namespace Wiring
variable {s s' : Wiring} {sg : Signal} {h news : List Event} {ticket : Ticket}

/-- Event `k` is the first one after event `i` to bring a reply with the number `id`. -/
structure FirstReply (h : List Event) (i k process id : Nat) (r : Wire.Reply) : Prop where
  after : i < k
  brings : ∃ event, EventAt h k event ∧ event.Brings process ⟨id,r⟩
  first : ∀ m event q e, i < m → m < k → EventAt h m event → event.Brings q e → e.id ≠ id

structure Paired (h : List Event) : Prop where
  once : ∀ i j ticket c c', EventAt h i (.completed ticket c) → EventAt h j (.completed ticket c') → i = j
  /-- The reply that a call is completed with is the first one with its number, -/
  reply : ∀ j ticket r, EventAt h j (.completed ticket (.reply r)) → ∃ i k process id request,
    EventAt h i (.sent process id (some ticket) request) ∧ FirstReply h i k process id r ∧ j = k + 1
  /-- and it is delivered if the caller still waits for it. -/
  delivered : ∀ i k process q id ticket request event r, EventAt h i (.sent process id (some ticket) request) →
    i < k → EventAt h k event → event.Brings q ⟨id,r⟩ → (∀ m c, m < k → ¬ EventAt h m (.completed ticket c)) →
    EventAt h (k + 1) (.completed ticket (.reply r))
  /-- A reply that nobody waits for any more goes to nobody. -/
  dropped : ∀ i k process q id waiter request event r, EventAt h i (.sent process id waiter request) →
    EventAt h k event → event.Brings q ⟨id,r⟩ →
    (∀ ticket, waiter = some ticket → ∃ m c, m < k ∧ EventAt h m (.completed ticket c)) →
    ∀ ticket r', ¬ EventAt h (k + 1) (.completed ticket (.reply r'))
  /-- A process that has been replaced is neither read from nor written to any more. -/
  replaced : ∀ i k p q event, EventAt h i (.replaced p) → EventAt h k event → event.process? = some q →
    (k < i → q < p) ∧ (i < k → p ≤ q)
  distinct : ∀ i j p q id waiter waiter' request request', EventAt h i (.sent p id waiter request) →
    EventAt h j (.sent q id waiter' request') → i = j
  positive : ∀ i p id waiter request, EventAt h i (.sent p id waiter request) → 0 < id
  /-- With its number each call goes to its process, and nothing else does but the wish that it end. -/
  written : ∀ i p id waiter request, EventAt h i (.sent p id waiter request) →
    EventAt h (i + 1) (.wrote p (Wire.Envelope.mk id request).write)
  others : ∀ j p line, EventAt h j (.wrote p line) → line = shutdownLine ∨
    ∃ i id waiter request, EventAt h i (.sent p id waiter request) ∧ j = i + 1

/-! ## Events by their place -/

theorem EventAt.cases {i : Nat} {event : Event} (hi : EventAt (h ++ news) i event) :
    EventAt h i event ∨ ∃ n, i = h.length + n ∧ EventAt news n event := by
  rcases Nat.lt_or_ge i h.length with hlt | hge
  · rw [EventAt, List.getElem?_append_left hlt] at hi
    exact .inl hi
  · rw [EventAt, List.getElem?_append_right hge] at hi
    exact .inr ⟨i - h.length,by omega,hi⟩

theorem EventAt.lt {i : Nat} {event : Event} (hi : EventAt h i event) : i < h.length :=
  (List.getElem?_eq_some_iff.mp hi).1

theorem EventAt.mem {i : Nat} {event : Event} (hi : EventAt h i event) : event ∈ h := List.mem_of_getElem? hi

theorem EventAt.append {i : Nat} {event : Event} (hi : EventAt h i event) (news : List Event) :
    EventAt (h ++ news) i event := by
  rw [EventAt, List.getElem?_append_left (EventAt.lt hi)]
  exact hi

theorem eventAt_append_right {n : Nat} {event : Event} (hn : EventAt news n event) :
    EventAt (h ++ news) (h.length + n) event := by
  rw [EventAt, List.getElem?_append_right (Nat.le_add_right _ _), Nat.add_sub_cancel_left]
  exact hn

/-- What occurs only once has one place. -/
theorem index_unique {α : Type} {f : Event → Option α} (hn : (h.filterMap f).Nodup) {i j : Nat} {x y : Event} {a : α}
    (hi : EventAt h i x) (hj : EventAt h j y) (hx : f x = some a) (hy : f y = some a) : i = j := by
  have hpair := List.pairwise_filterMap.mp hn
  rw [List.pairwise_iff_getElem] at hpair
  obtain ⟨hil,rfl⟩ := List.getElem?_eq_some_iff.mp hi
  obtain ⟨hjl,rfl⟩ := List.getElem?_eq_some_iff.mp hj
  by_contra hne
  rcases Nat.lt_or_gt_of_ne hne with hlt | hlt
  · exact hpair i j hil hjl hlt a hx a hy rfl
  · exact hpair j i hjl hil hlt a hy a hx rfl

/-- What holds of each event when a signal adds it, and goes on holding as the history grows. -/
theorem Reaches.at {P : List Event → Nat → Event → Prop} {i : Nat} {event : Event}
    (hcalled : ∀ h i ticket, P h i (.called ticket))
    (hkeep : ∀ h news i event, EventAt h i event → P h i event → P (h ++ news) i event)
    (hsignal : ∀ s h sg n event, Reaches s h → s.Possible sg → EventAt (s.news sg) n event →
      P (h ++ s.news sg) (h.length + n) event)
    (hr : Reaches s h) (hi : EventAt h i event) : P h i event := by
  induction hr with
  | start => cases hi
  | @next s s' h news hr ht ih =>
    rcases EventAt.cases hi with hi | ⟨n,rfl,hn⟩
    · exact hkeep h news i event hi (ih hi)
    · cases ht with
      | signal sg hp => exact hsignal s h sg n event hr hp hn
      | write process output hp => cases hn
      | late request hs =>
        obtain rfl : event = .called s.tickets := by simpa using EventAt.mem hn
        exact hcalled _ _ _

/-! ## What a turn adds -/

theorem eventAt_news {n : Nat} {event : Event} (hn : EventAt (s.news sg) n event) :
    (n = 0 ∧ Noted s sg event ∧ s.news sg = event :: told s.process (s.channel.step sg).2) ∨
      event ∈ told s.process (s.channel.step sg).2 := by
  cases he : s.noted sg with
  | none =>
    have hnews : s.news sg = told s.process (s.channel.step sg).2 := by simp [news, he]
    exact .inr (hnews ▸ EventAt.mem hn)
  | some first =>
    have hnews : s.news sg = first :: told s.process (s.channel.step sg).2 := by simp [news, he]
    rw [hnews] at hn
    cases n with
    | succ n => exact .inr (EventAt.mem (h := told s.process (s.channel.step sg).2) hn)
    | zero =>
      obtain rfl := Option.some.inj hn
      exact .inl ⟨rfl,noted_spec he,hnews⟩

/-- Only a line that is read brings a reply. -/
theorem of_brings {n q : Nat} {event : Event} {e : Wire.Envelope Wire.Reply} (hn : EventAt (s.news sg) n event)
    (hb : event.Brings q e) : n = 0 ∧ q = s.process ∧ ∃ t, sg = .line t ∧ Wire.Envelope.read? t = some e ∧
      s.news sg = event :: told s.process (s.channel.step sg).2 := by
  obtain ⟨t,rfl,hr⟩ := hb
  rcases eventAt_news hn with ⟨rfl,hnoted,hnews⟩ | htold
  · cases hnoted with
    | line => exact ⟨rfl,rfl,t,rfl,hr,hnews⟩
  · simp [mem_told] at htold

theorem of_sent {n p id : Nat} {waiter : Option Ticket} {request : Wire.Request}
    (hn : EventAt (s.news sg) n (.sent p id waiter request)) : n = 0 ∧ p = s.process ∧ id = s.channel.nextId ∧
      (∃ written queue, sg = .serve written ∧ s.channel.takes = true ∧ s.channel.alive = true ∧
        s.channel.queue = .call waiter request :: queue) ∧
      s.news sg = .sent p id waiter request :: told s.process (s.channel.step sg).2 := by
  rcases eventAt_news hn with ⟨rfl,hnoted,hnews⟩ | htold
  · cases hnoted with
    | sent ht hq ha => exact ⟨rfl,rfl,rfl,⟨_,_,rfl,ht,ha,hq⟩,hnews⟩
  · simp [mem_told] at htold

theorem of_completed {n : Nat} {completion : Completion} (hn : EventAt (s.news sg) n (.completed ticket completion)) :
    .complete ticket completion ∈ (s.channel.step sg).2 := by
  rcases eventAt_news hn with ⟨-,hnoted,-⟩ | htold
  · cases hnoted
  · simpa [mem_told] using htold

theorem of_wrote {n p : Nat} {line : Text} (hn : EventAt (s.news sg) n (.wrote p line)) :
    p = s.process ∧ .write line ∈ (s.channel.step sg).2 := by
  rcases eventAt_news hn with ⟨-,hnoted,-⟩ | htold
  · cases hnoted
  · simpa [mem_told] using htold

/-! ## Calls that wait -/

structure Registered (s : Wiring) (h : List Event) : Prop where
  opened : ∀ call ∈ s.channel.pending, ∃ i waiter request, EventAt h i (.sent s.process call.1 waiter request) ∧
    (call.2 = waiter ∨ call.2 = none) ∧
    ∀ k event q e, i < k → EventAt h k event → event.Brings q e → e.id ≠ call.1
  awaited : ∀ i p id ticket request, EventAt h i (.sent p id (some ticket) request) → ticket ∉ completions h →
    (id,some ticket) ∈ s.channel.pending

/-- A new process starts only when no call waits for the one before. -/
theorem process_after (hs : s.channel.Steady) (hp : s.Possible sg) {call : Nat × Option Ticket}
    (hcall : call ∈ (s.after sg).channel.pending) : (s.after sg).process = s.process := by
  cases sg with
  | submit command | serve written | line t | lost | expire other => rfl
  | started fault =>
    have hidle := hs.idle (hs.replacing hp).1
    cases hr : s.channel.restarting with
    | none => exact absurd hr hp
    | some other => simp [after, step, started, hr, hidle] at hcall

theorem sent_after {n p id : Nat} {request : Wire.Request}
    (hn : EventAt (s.news sg) n (.sent p id (some ticket) request)) :
    ticket ∈ finished (s.channel.step sg).2 ∨ (id,some ticket) ∈ (s.channel.step sg).1.pending := by
  obtain ⟨-,-,rfl,⟨written,queue,rfl,ht,ha,hq⟩,-⟩ := of_sent hn
  obtain ⟨hstop,hnone⟩ := takes_iff.mp ht
  cases written with
  | true => exact .inr (by simp [step, serve, hstop, hnone, hq, sendCall, ha])
  | false => exact .inl (by simp [step, serve, hstop, hnone, hq, sendCall, ha, detach])

theorem Registered.signal (hreg : Registered s h) (hs : Sound s h) (hp : s.Possible sg) :
    Registered (s.after sg) (h ++ s.news sg) where
  opened call hcall := by
    have hstep := s.channel.step_spec sg
    rw [process_after hs.steady hp hcall]
    rcases hstep.mem_pending hcall with ⟨waiter,request,queue,rfl,hq,ht,ha,rfl⟩ | ⟨old,hold,hid,hwaiter,hline⟩
    · have hsends : EventAt (s.news (.serve true)) 0 (.sent s.process s.channel.nextId waiter request) := by
        simp [EventAt, news, noted, sends, hq, ht, ha]
      refine ⟨_,waiter,request,eventAt_append_right hsends,.inl rfl,fun k event q e hk hat hb => ?_⟩
      rcases EventAt.cases hat with hat | ⟨n,rfl,hn⟩
      · have hlt := EventAt.lt hat
        omega
      · obtain ⟨rfl,-⟩ := of_brings hn hb
        omega
    · obtain ⟨i,waiter,request,hsent,hsame,hlater⟩ := hreg.opened old hold
      rw [hid]
      refine ⟨i,waiter,request,EventAt.append hsent _,?_,fun k event q e hk hat hb => ?_⟩
      · rcases hwaiter with he | he
        · rwa [he]
        · exact .inr he
      · rcases EventAt.cases hat with hat | ⟨n,rfl,hn⟩
        · exact hlater k event q e hk hat hb
        · obtain ⟨-,-,t,rfl,hread,-⟩ := of_brings hn hb
          exact hid ▸ hline t e rfl hp.1 hread
  awaited i p id ticket request hi hwait := by
    rw [completions_append, completions_news, List.mem_append, not_or] at hwait
    rcases EventAt.cases hi with hi | ⟨n,rfl,hn⟩
    · have hpending := hreg.awaited i p id ticket request hi hwait.1
      exact ((s.channel.step_spec sg).pending_of_mem hs.steady hpending).resolve_left hwait.2
    · exact (sent_after hn).resolve_left hwait.2

theorem Reaches.registered (hr : Reaches s h) : Registered s h := by
  induction hr with
  | start => exact ⟨by simp,by simp⟩
  | @next s s' h news hr ht ih =>
    cases ht with
    | signal sg hp => exact ih.signal hr.sound hp
    | write process output hp =>
      rw [List.append_nil]
      exact ⟨ih.opened,ih.awaited⟩
    | late request hs =>
      refine ⟨fun call hcall => ?_,fun i p id ticket request hi hwait => ?_⟩
      · obtain ⟨i,waiter,request,hsent,hsame,hlater⟩ := ih.opened call hcall
        refine ⟨i,waiter,request,EventAt.append hsent _,hsame,fun k event q e hk hat hb => ?_⟩
        rcases EventAt.cases hat with hat | ⟨n,rfl,hn⟩
        · exact hlater k event q e hk hat hb
        · obtain rfl : event = .called s.tickets := by simpa using EventAt.mem hn
          obtain ⟨t,he,-⟩ := hb
          cases he
      · rcases EventAt.cases hi with hi | ⟨n,rfl,hn⟩
        · exact ih.awaited i p id ticket request hi (by simpa using hwait)
        · simpa using EventAt.mem hn

/-! ## Replies -/

theorem FirstReply.append {i k process id : Nat} {r : Wire.Reply} (hf : FirstReply h i k process id r)
    (news : List Event) : FirstReply (h ++ news) i k process id r := by
  obtain ⟨event,hat,hb⟩ := hf.brings
  refine ⟨hf.after,⟨event,EventAt.append hat _,hb⟩,fun m other q e hm hk hother hbrings => ?_⟩
  rcases EventAt.cases hother with hother | ⟨n,rfl,-⟩
  · exact hf.first m other q e hm hk hother hbrings
  · have hlt := EventAt.lt hat
    omega

theorem Reaches.reply (hr : Reaches s h) {j : Nat} {r : Wire.Reply} (hj : EventAt h j (.completed ticket (.reply r))) :
    ∃ i k process id request, EventAt h i (.sent process id (some ticket) request) ∧ FirstReply h i k process id r ∧
      j = k + 1 := by
  refine Reaches.at (P := fun h j event => ∀ ticket r, event = .completed ticket (.reply r) →
    ∃ i k process id request, EventAt h i (.sent process id (some ticket) request) ∧ FirstReply h i k process id r ∧
      j = k + 1) (fun _ _ _ _ _ he => by cases he) ?_ ?_ hr hj ticket r rfl
  · intro h news i event _ ih ticket r he
    obtain ⟨i,k,process,id,request,hsent,hfirst,hj⟩ := ih ticket r he
    exact ⟨i,k,process,id,request,EventAt.append hsent _,hfirst.append _,hj⟩
  · rintro s h sg n event hr hp hn ticket r rfl
    obtain ⟨t,id,rfl,hread,hcall,heffects⟩ := (s.channel.step_spec sg).reply (of_completed hn)
    have hnews : s.news (.line t) = [.read s.process (.line t),.completed ticket (.reply r)] := by
      simp [news, noted, heffects, told]
    obtain ⟨i,waiter,request,hsent,hwaiter,hlater⟩ := hr.registered.opened _ hcall
    obtain rfl : some ticket = waiter := hwaiter.resolve_right (by simp)
    rw [hnews] at hn ⊢
    have hlast : n = 1 := by
      rcases n with _ | _ | n
      · cases hn
      · rfl
      · cases hn
    refine ⟨i,h.length,s.process,id,request,EventAt.append hsent _,⟨EventAt.lt hsent,?_,?_⟩,by omega⟩
    · exact ⟨_,eventAt_append_right (n := 0) rfl,t,rfl,hread⟩
    · intro m event q e hm hk hat hb
      rcases EventAt.cases hat with hat | ⟨n,rfl,-⟩
      · exact hlater m event q e hm hat hb
      · omega

theorem Reaches.delivered (hr : Reaches s h) {i k p q id : Nat} {request : Wire.Request} {event : Event}
    {r : Wire.Reply} (hi : EventAt h i (.sent p id (some ticket) request)) (hlt : i < k) (hk : EventAt h k event)
    (hb : event.Brings q ⟨id,r⟩) (hwait : ∀ m c, m < k → ¬ EventAt h m (.completed ticket c)) :
    EventAt h (k + 1) (.completed ticket (.reply r)) := by
  refine Reaches.at (P := fun h k event => ∀ i p q id ticket request r,
    EventAt h i (.sent p id (some ticket) request) → i < k → event.Brings q ⟨id,r⟩ →
    (∀ m c, m < k → ¬ EventAt h m (.completed ticket c)) → EventAt h (k + 1) (.completed ticket (.reply r)))
    ?_ ?_ ?_ hr hk i p q id ticket request r hi hlt hb hwait
  · rintro h i ticket _ _ _ _ _ _ _ _ _ ⟨t,he,-⟩
    cases he
  · intro h news k event hk ih i p q id ticket request r hi hlt hb hwait
    have hkl := EventAt.lt hk
    refine EventAt.append (ih i p q id ticket request r ?_ hlt hb fun m c hm hat => ?_) news
    · refine (EventAt.cases hi).resolve_right ?_
      rintro ⟨n,rfl,-⟩
      omega
    · exact hwait m c hm (EventAt.append hat _)
  · intro s h sg n event hr hp hn i p q id ticket request r hi hlt hb hwait
    obtain ⟨rfl,-,t,rfl,hread,hnews⟩ := of_brings hn hb
    have hold : EventAt h i (.sent p id (some ticket) request) := by
      refine (EventAt.cases hi).resolve_right ?_
      rintro ⟨n,rfl,-⟩
      omega
    have hpending : (id,some ticket) ∈ s.channel.pending := by
      refine hr.registered.awaited i p id ticket request hold fun hmem => ?_
      obtain ⟨c,hmem⟩ := mem_completions.mp hmem
      obtain ⟨m,hm⟩ := List.mem_iff_getElem?.mp hmem
      exact hwait m c (EventAt.lt hm) (EventAt.append hm _)
    have hlookup := lookup_of_mem hr.sound.steady.distinct hpending
    have heffects : (s.channel.step (.line t)).2 = [.complete ticket (.reply r)] := by
      simp [step, hp.1, receive, hread, hlookup, completeAll]
    rw [hnews, heffects]
    exact eventAt_append_right (n := 1) rfl

/-! ## Lines -/

theorem Reaches.written (hr : Reaches s h) {i p id : Nat} {waiter : Option Ticket} {request : Wire.Request}
    (hi : EventAt h i (.sent p id waiter request)) :
    EventAt h (i + 1) (.wrote p (Wire.Envelope.mk id request).write) := by
  refine Reaches.at (P := fun h i event => ∀ p id waiter request, event = .sent p id waiter request →
    EventAt h (i + 1) (.wrote p (Wire.Envelope.mk id request).write)) (fun _ _ _ _ _ _ _ he => by cases he) ?_ ?_
    hr hi p id waiter request rfl
  · intro h news i event _ ih p id waiter request he
    exact EventAt.append (ih p id waiter request he) _
  · rintro s h sg n event hr hp hn p id waiter request rfl
    obtain ⟨rfl,rfl,rfl,⟨written,queue,rfl,ht,ha,hq⟩,hnews⟩ := of_sent hn
    rcases (s.channel.step_spec (.serve written)).serve_sends s.process with
      ⟨hnone,-⟩ | ⟨waiter',request',rest,hsends,-,heffects,-⟩
    · simp [sends, hq, ht, ha] at hnone
    · obtain ⟨rfl,rfl⟩ : waiter = waiter' ∧ request = request' := by simpa [sends, hq, ht, ha] using hsends
      rw [hnews, heffects]
      exact eventAt_append_right (n := 1) rfl

theorem Reaches.others (hr : Reaches s h) {j p : Nat} {line : Text} (hj : EventAt h j (.wrote p line)) :
    line = shutdownLine ∨ ∃ i id waiter request, EventAt h i (.sent p id waiter request) ∧ j = i + 1 := by
  refine Reaches.at (P := fun h j event => ∀ p line, event = .wrote p line → line = shutdownLine ∨
    ∃ i id waiter request, EventAt h i (.sent p id waiter request) ∧ j = i + 1) (fun _ _ _ _ _ he => by cases he) ?_ ?_
    hr hj p line rfl
  · intro h news i event _ ih p line he
    refine (ih p line he).imp_right fun ⟨i,id,waiter,request,hsent,hj⟩ => ?_
    exact ⟨i,id,waiter,request,EventAt.append hsent _,hj⟩
  · rintro s h sg n event hr hp hn p line rfl
    obtain ⟨rfl,hline⟩ := of_wrote hn
    have hstep := s.channel.step_spec sg
    obtain ⟨written,rfl⟩ := hstep.serve_of_write hline
    rcases hstep.serve_sends s.process with ⟨-,-,hshutdown⟩ | ⟨waiter,request,rest,hsends,-,heffects,hrest⟩
    · exact .inl (hshutdown line hline)
    · have hnews : s.news (.serve written) = .sent s.process s.channel.nextId waiter request ::
          .wrote s.process (Wire.Envelope.mk s.channel.nextId request).write :: told s.process rest := by
        simp [news, noted, hsends, heffects, told]
      rw [hnews] at hn ⊢
      refine .inr ⟨h.length,s.channel.nextId,waiter,request,eventAt_append_right (n := 0) rfl,?_⟩
      rcases n with _ | _ | n
      · cases hn
      · rfl
      · have hmem := EventAt.mem (h := told s.process rest) hn
        simp [mem_told, hrest] at hmem

/-! ## The order of the processes -/

def Event.Precedes (x y : Event) : Prop :=
  ∀ p q, (x = .replaced p → y.process? = some q → p ≤ q) ∧ (y = .replaced p → x.process? = some q → q < p)

structure Ordered (s : Wiring) (h : List Event) : Prop where
  present : ∀ event ∈ h, ∀ p, event.process? = some p → p ≤ s.process
  newest : ∀ p, .replaced p ∈ h → p ≤ s.process
  precedes : h.Pairwise Event.Precedes

theorem process_of_mem_news {event : Event} {p : Nat} (hmem : event ∈ s.news sg) (he : event.process? = some p) :
    p = s.process ∧ (s.after sg).process = s.process := by
  rcases mem_news hmem with hnoted | htold
  · cases hnoted with
    | called | replaced => cases he
    | sent | line | lost => exact ⟨(Option.some.inj he).symm,rfl⟩
  · rcases mem_told.mp htold with ⟨line,rfl,hline⟩ | ⟨ticket,completion,rfl,-⟩
    · obtain ⟨written,rfl⟩ := (s.channel.step_spec sg).serve_of_write hline
      exact ⟨(Option.some.inj he).symm,rfl⟩
    · cases he

theorem replaced_of_mem_news {p : Nat} (hmem : .replaced p ∈ s.news sg) :
    p = s.process + 1 ∧ (s.after sg).process = s.process + 1 := by
  rcases mem_news hmem with hnoted | htold
  · cases hnoted with
    | replaced => exact ⟨rfl,rfl⟩
  · simp [mem_told] at htold

theorem Ordered.signal (ho : Ordered s h) : Ordered (s.after sg) (h ++ s.news sg) := by
  have hgrows : s.process ≤ (s.after sg).process := by
    cases sg with
    | started fault => cases fault <;> simp [after]
    | submit command | serve written | line t | lost | expire other => exact le_rfl
  -- A new process starts in a turn of its own.
  have hapart (p q : Nat) (event : Event) (hr : .replaced p ∈ s.news sg) (hmem : event ∈ s.news sg)
      (he : event.process? = some q) : False := by
    have h1 := (replaced_of_mem_news hr).2
    have h2 := (process_of_mem_news hmem he).2
    omega
  refine { present := ?present, newest := ?newest, precedes := List.pairwise_append.mpr ⟨ho.precedes,?_,?_⟩ }
  case present =>
    intro event hmem p he
    rcases List.mem_append.mp hmem with hmem | hmem
    · exact (ho.present event hmem p he).trans hgrows
    · obtain ⟨rfl,-⟩ := process_of_mem_news hmem he
      exact hgrows
  case newest =>
    intro p hmem
    rcases List.mem_append.mp hmem with hmem | hmem
    · exact (ho.newest p hmem).trans hgrows
    · obtain ⟨rfl,hafter⟩ := replaced_of_mem_news hmem
      exact hafter.ge
  · refine List.pairwise_of_forall_mem_list ?_
    intro x hx y hy p q
    constructor
    · rintro rfl he
      exact (hapart p q y hx hy he).elim
    · rintro rfl he
      exact (hapart p q x hy hx he).elim
  · intro x hx y hy p q
    constructor
    · rintro rfl he
      obtain ⟨rfl,-⟩ := process_of_mem_news hy he
      exact ho.newest p hx
    · rintro rfl he
      obtain ⟨rfl,-⟩ := replaced_of_mem_news hy
      exact Nat.lt_succ_of_le (ho.present x hx q he)

theorem Reaches.ordered (hr : Reaches s h) : Ordered s h := by
  induction hr with
  | start => exact ⟨by simp,by simp,.nil⟩
  | @next s s' h news hr ht ih =>
    cases ht with
    | signal sg hp => exact ih.signal
    | write process output hp =>
      rw [List.append_nil]
      exact ⟨ih.present,ih.newest,ih.precedes⟩
    | late request hs =>
      refine ⟨fun event hmem p he => ?_,fun p hmem => ih.newest p (by simpa using hmem),?_⟩
      · rcases List.mem_append.mp hmem with hmem | hmem
        · exact ih.present event hmem p he
        · obtain rfl := List.mem_singleton.mp hmem
          cases he
      · refine List.pairwise_append.mpr ⟨ih.precedes,List.pairwise_singleton _ _,fun x hx y hy p q => ?_⟩
        obtain rfl := List.mem_singleton.mp hy
        constructor
        · intro _ he
          cases he
        · intro he
          cases he

/-- Each call that is answered gets the reply to its own request. -/
theorem replies_paired (hr : Reaches s h) : Paired h := by
  have hs := hr.sound
  have honce (i j : Nat) (ticket : Ticket) (c c' : Completion) (hi : EventAt h i (.completed ticket c))
      (hj : EventAt h j (.completed ticket c')) : i = j :=
    index_unique (List.nodup_append.mp hs.nodup).1 hi hj rfl rfl
  have hdistinct (i j p q id : Nat) (waiter waiter' : Option Ticket) (request request' : Wire.Request)
      (hi : EventAt h i (.sent p id waiter request)) (hj : EventAt h j (.sent q id waiter' request')) : i = j :=
    index_unique (hs.increasing.imp Nat.ne_of_lt) hi hj rfl rfl
  refine {
    once := honce
    reply := fun j ticket r hj => hr.reply hj
    delivered := fun i k p q id ticket request event r hi hlt hk hb hwait => hr.delivered hi hlt hk hb hwait
    dropped := ?dropped
    replaced := ?replaced
    distinct := hdistinct
    positive := ?positive
    written := fun i p id waiter request hi => hr.written hi
    others := fun j p line hj => hr.others hj }
  case dropped =>
    intro i k p q id waiter request event r hi hk hb hgone ticket r' hat
    obtain ⟨i',k',p',id',request',hsent,hfirst,hk'⟩ := hr.reply hat
    obtain rfl : k = k' := by omega
    obtain ⟨event',hat',hb'⟩ := hfirst.brings
    obtain rfl : event = event' := Option.some.inj (hk.symm.trans hat')
    obtain ⟨t,rfl,hread⟩ := hb
    obtain ⟨t',he,hread'⟩ := hb'
    obtain rfl : t = t' := by simpa using (Event.read.inj he).2
    obtain rfl : id = id' := by simpa using congrArg Wire.Envelope.id (Option.some.inj (hread.symm.trans hread'))
    obtain rfl := hdistinct _ _ _ _ _ _ _ _ _ hi hsent
    obtain ⟨-,-,rfl,-⟩ := Event.sent.inj (Option.some.inj (hi.symm.trans hsent))
    -- The caller would be completed twice.
    obtain ⟨m,c,hlt,hm⟩ := hgone ticket rfl
    have heq := honce m (k + 1) ticket c _ hm hat
    omega
  case replaced =>
    intro i k p q event hi hk he
    obtain ⟨hil,hi⟩ := List.getElem?_eq_some_iff.mp hi
    obtain ⟨hkl,hk⟩ := List.getElem?_eq_some_iff.mp hk
    have hprecedes := List.pairwise_iff_getElem.mp hr.ordered.precedes
    constructor
    · intro hlt
      exact (hprecedes k i hkl hil hlt p q).2 hi (hk ▸ he)
    · intro hlt
      exact (hprecedes i k hil hkl hlt p q).1 hi (hk ▸ he)
  case positive =>
    intro i p id waiter request hi
    have hid : id ∈ numbers h := mem_numbers.mpr ⟨p,waiter,request,EventAt.mem hi⟩
    exact (hs.bounded id hid).1

/-- The first caller gives up before its reply comes; then the second one is answered and the process replaced. -/
theorem replies_paired_lateReply : ∃ s h, Reaches s h ∧ completions h = [0,1,2] ∧ numbers h = [1,2] ∧
    .completed 0 .timedOut ∈ h ∧ .completed 1 (.reply .ack) ∈ h ∧ .replaced 1 ∈ h ∧ Paired h := by
  let ack (id : Nat) : Text := Json.write (Wire.Envelope.mk id Wire.Reply.ack).json
  have hcalls := (Reaches.start.next (.signal (.submit (.call (some 0) .flush)) rfl)).next
    (.signal (.serve true) trivial)
  have hsecond := ((hcalls.next (.signal (.expire 0) trivial)).next
    (.signal (.submit (.call (some 1) .flush)) rfl)).next (.signal (.serve true) trivial)
  have hwritten := (hsecond.next (.write 0 (.line (ack 1)) le_rfl)).next
    (.write 0 (.line (ack 2)) le_rfl)
  have hread := (hwritten.next (.signal (.line (ack 1)) (by decide +kernel))).next
    (.signal (.line (ack 2)) (by decide +kernel))
  have hrestarted := ((hread.next (.signal (.submit (.restart 2)) (by decide +kernel))).next
    (.signal (.serve true) trivial)).next (.signal (.started none) (by decide +kernel))
  exact ⟨_,_,hrestarted,by decide +kernel,by decide +kernel,by decide +kernel,by decide +kernel,by decide +kernel,
    replies_paired hrestarted⟩

end Wiring
end StatementPad.Channel

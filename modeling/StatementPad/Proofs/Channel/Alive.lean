import StatementPad.Proofs.Channel.Wiring

/-! # What it means that a channel is alive

A channel is alive as long as the agent reads what its process writes. When that ends, every call that has been
sent is told at once that there is no answer. From then on nobody waits for a process: calls are refused or told
that there is no answer, until a new process has started.
-/
namespace StatementPad.Channel

inductive Severing (c : Channel) : Signal → Prop where
  | unwritable {waiter : Option Ticket} {request : Wire.Request} {queue : List Command} (ht : c.takes = true)
      (hq : c.queue = .call waiter request :: queue) (ha : c.alive = true) : Severing c (.serve false)
  /-- The end of the output, or something that is no text. -/
  | lost (hread : c.reading = true) : Severing c .lost
  | restart {written : Bool} {ticket : Ticket} {queue : List Command} (ht : c.takes = true)
      (hq : c.queue = .restart ticket :: queue) : Severing c (.serve written)
  | shutdown {written : Bool} {ticket : Ticket} {queue : List Command} (ht : c.takes = true)
      (hq : c.queue = .shutdown ticket :: queue) : Severing c (.serve written)

namespace Wiring

inductive Runs (s : Wiring) : List Event → Wiring → Prop where
  | refl : Runs s [] s
  | next {s' s'' : Wiring} {more news : List Event} (hr : Runs s more s') (ht : Turn s' news s'') :
      Runs s (more ++ news) s''

/-- The connection has ended, and nobody waits for an answer from it. -/
structure Severed (s : Wiring) (sg : Signal) : Prop where
  dead : (s.after sg).channel.alive = false
  idle : (s.after sg).channel.pending = []
  pending : ∀ id ticket, (id,some ticket) ∈ s.channel.pending → .completed ticket .noAnswer ∈ s.news sg
  /-- A call that could not be written was sent too. -/
  sent : ∀ p id ticket request, .sent p id (some ticket) request ∈ s.news sg → .completed ticket .noAnswer ∈ s.news sg

/-- What happens has to do with one call at most; all the others go on waiting. -/
structure Spares (s : Wiring) (sg : Signal) (own : Option Ticket) : Prop where
  alive : (s.after sg).channel.alive = s.channel.alive
  reading : (s.after sg).channel.reading = s.channel.reading
  pending : ∀ id ticket, own ≠ some ticket →
    ((id,some ticket) ∈ (s.after sg).channel.pending ↔ (id,some ticket) ∈ s.channel.pending)
  queue : ∀ ticket request, own ≠ some ticket →
    (.call (some ticket) request ∈ (s.after sg).channel.queue ↔ .call (some ticket) request ∈ s.channel.queue)
  completed : ∀ ticket completion, own ≠ some ticket → .completed ticket completion ∉ s.news sg

structure Silent (s : Wiring) (h more : List Event) : Prop where
  dead : s.channel.alive = false
  sent : ∀ p id waiter request, .sent p id waiter request ∉ more
  wrote : ∀ p line, .wrote p line ∉ more
  read : ∀ p output, .read p output ∉ more
  called : ∀ ticket completion, .called ticket ∈ h ++ more → .completed ticket completion ∈ more →
    completion = .noAnswer ∨ completion = .timedOut

structure Faithful (s : Wiring) (h : List Event) : Prop where
  alive_iff : s.channel.alive = true ↔ s.channel.reading = true
  idle : s.channel.alive = false → s.channel.pending = []
  numbered : ∀ call ∈ s.channel.pending, call.1 < s.channel.nextId
  kept : ∀ ticket, .called ticket ∈ h → ticket ∉ completions h →
    (∃ request, .call (some ticket) request ∈ s.channel.queue) ∨ ∃ id, (id,some ticket) ∈ s.channel.pending
  severed : ∀ sg, Severing s.channel sg → Severed s sg
  /-- Calls that stand in the queue behind a shutdown are not taken any more. -/
  abandoned : ∀ written other queue ticket request, s.channel.takes = true →
    s.channel.queue = .shutdown other :: queue → .call (some ticket) request ∈ queue →
    .completed ticket .noAnswer ∈ s.news (.serve written)
  silent : s.channel.alive = false → ∀ s' more, Runs s more s' → (∀ p, .replaced p ∉ more) → Silent s' h more
  refused : s.channel.alive = false → ∀ ticket request,
    s.news (.submit (.call (some ticket) request)) = [.completed ticket .notAlive] ∧
    (s.after (.submit (.call (some ticket) request))).channel = s.channel
  unanswered : s.channel.alive = false → s.channel.takes = true → ∀ ticket request queue,
    s.channel.queue = .call (some ticket) request :: queue → ∀ written,
    s.news (.serve written) = [.completed ticket .noAnswer] ∧
    (s.after (.serve written)).channel = { s.channel with queue := queue }
  /-- A dead channel that has worked off its queue owes nobody an answer. -/
  settled : s.channel.alive = false → s.channel.queue = [] → ∀ ticket, .called ticket ∈ h → ticket ∈ completions h
  /-- A restart that fails leaves the channel dead, and takes the next command. -/
  failed : ∀ ticket fault, s.channel.restarting = some ticket →
    s.news (.started (some fault)) = [.completed ticket (.restarted (some fault))] ∧
    (s.after (.started (some fault))).channel = { s.channel with restarting := none, alive := false, reading := false } ∧
    (s.after (.started (some fault))).channel.takes = true
  /-- A restart can be asked for as long as the agent has not ended; -/
  restart : ∀ ticket, s.channel.stopped = false →
    (s.after (.submit (.restart ticket))).channel = { s.channel with queue := s.channel.queue ++ [.restart ticket] }
  /-- then a new process is to start, -/
  restarting : s.channel.takes = true → ∀ ticket queue, s.channel.queue = .restart ticket :: queue → ∀ written,
    (s.after (.serve written)).channel.restarting = some ticket ∧
    .replaceProcess ∈ (s.channel.step (.serve written)).2
  /-- and once it has, the channel is alive. -/
  started : ∀ ticket, s.channel.restarting = some ticket →
    s.news (.started none) = [.replaced (s.process + 1),.completed ticket (.restarted none)] ∧
    (s.after (.started none)).channel = { s.channel with restarting := none, alive := true, reading := true }
  timeout : ∀ ticket, Spares s (.expire ticket) (some ticket)
  malformed : ∀ t, (Wire.Envelope.read? t : Option (Wire.Envelope Wire.Reply)) = none → Spares s (.line t) none
  /-- So does a reply, also one that reports a failure. -/
  reply : ∀ t (e : Wire.Envelope Wire.Reply), Wire.Envelope.read? t = some e →
    Spares s (.line t) (s.channel.pending.lookup e.id).join

variable {s s' : Wiring} {sg : Signal} {h more : List Event} {ticket : Ticket}

theorem Reaches.runs (hr : Reaches s h) (hs : Runs s more s') : Reaches s' (h ++ more) := by
  induction hs with
  | refl => rwa [List.append_nil]
  | next _ ht ih =>
    rw [← List.append_assoc]
    exact ih.next ht

/-! ## Calls -/

theorem Sound.kept (hs : Sound s h) (hcalled : .called ticket ∈ h) (hopen : ticket ∉ completions h) :
    (∃ request, .call (some ticket) request ∈ s.channel.queue) ∨ ∃ id, (id,some ticket) ∈ s.channel.pending := by
  have hall : ticket ∈ completions h ++ s.channel.waiting :=
    hs.conserved.symm.subset (List.mem_range.mpr (hs.known ticket hcalled))
  have hwaits : ticket ∈ s.channel.waiting := (List.mem_append.mp hall).resolve_left hopen
  have hcaller : ticket ∈ s.channel.callers :=
    (List.mem_append.mp hwaits).resolve_right fun hother => hs.apart ticket hother hcalled
  rcases List.mem_append.mp hcaller with hpending | hqueue
  · obtain ⟨⟨id,waiter⟩,hmem,rfl⟩ := List.mem_filterMap.mp hpending
    exact .inr ⟨id,hmem⟩
  · obtain ⟨command,hmem,he⟩ := List.mem_filterMap.mp hqueue
    cases command with
    | call waiter request =>
      obtain rfl : waiter = some ticket := he
      exact .inl ⟨request,hmem⟩
    | restart other | shutdown other => cases he

theorem completed_mem_news {completion : Completion} :
    .completed ticket completion ∈ s.news sg ↔ .complete ticket completion ∈ (s.channel.step sg).2 := by
  constructor
  · intro hmem
    rcases mem_news hmem with hnoted | htold
    · cases hnoted
    · simpa [mem_told] using htold
  · intro hmem
    exact List.mem_append_right _ (mem_told.mpr (.inr ⟨ticket,completion,rfl,hmem⟩))

/-! ## The end of a connection -/

theorem severed (hsev : Severing s.channel sg) : Severed s sg := by
  have hdetached : (s.channel.step sg).1.alive = false ∧ (s.channel.step sg).1.pending = [] ∧
      ∀ ticket, some ticket ∈ s.channel.pending.map Prod.snd → .complete ticket .noAnswer ∈ (s.channel.step sg).2 := by
    cases hsev with
    | unwritable ht hq ha =>
      rw [(Step.failed ht hq ha).step_eq]
      exact ⟨rfl,rfl,fun ticket hmem => by simp [hmem]⟩
    | lost hread =>
      rw [(Step.lost hread).step_eq]
      exact ⟨rfl,rfl,fun ticket hmem => by simp [hmem]⟩
    | restart ht hq =>
      rw [(Step.replacing ht hq).step_eq]
      exact ⟨rfl,rfl,fun ticket hmem => by simp [hmem]⟩
    | shutdown ht hq =>
      rw [(Step.stopping ht hq).step_eq]
      exact ⟨rfl,rfl,fun ticket hmem => by simp [hmem]⟩
  obtain ⟨hdead,hidle,hdone⟩ := hdetached
  refine ⟨hdead,hidle,fun id ticket hcall => ?_,fun p id ticket request hsent => ?_⟩
  · exact completed_mem_news.mpr (hdone ticket (List.mem_map_of_mem hcall))
  · rcases mem_news hsent with hnoted | htold
    · cases hnoted with
      | sent ht hq ha =>
        cases hsev with
        | unwritable =>
          rw [completed_mem_news, (Step.failed ht hq ha).step_eq]
          simp
        | restart ht' hq' | shutdown ht' hq' => cases (List.cons.inj (hq.symm.trans hq')).1
    · simp [mem_told] at htold

theorem abandoned_behind {written : Bool} {other : Ticket} {queue : List Command} {request : Wire.Request}
    (ht : s.channel.takes = true) (hq : s.channel.queue = .shutdown other :: queue)
    (hmem : .call (some ticket) request ∈ queue) : .completed ticket .noAnswer ∈ s.news (.serve written) := by
  rw [completed_mem_news, (Step.stopping ht hq).step_eq]
  have habandoned : .complete ticket .noAnswer ∈ queue.flatMap abandoned :=
    List.mem_flatMap.mpr ⟨_,hmem,by simp [abandoned]⟩
  simp [habandoned]

/-! ## A dead channel -/

/-- What is noted at the front of a turn belongs to a channel that is alive. -/
theorem mem_told_of_dead (hs : s.channel.Steady) (hdead : s.channel.alive = false) (hp : s.Possible sg)
    (hstart : sg ≠ .started none) {event : Event} (hmem : event ∈ s.news sg) :
    event ∈ told s.process (s.channel.step sg).2 := by
  have hread : s.channel.reading = false := hs.alive_eq ▸ hdead
  refine (mem_news hmem).resolve_left ?_
  intro hnoted
  cases hnoted with
  | called ha | sent ht hq ha => simp [hdead] at ha
  | replaced => exact hstart rfl
  | line | lost => exact absurd hp.1 (by simp [hread])

theorem Silent.signal (hsil : Silent s h more) (hs : Sound s (h ++ more)) (hp : s.Possible sg)
    (hstart : ∀ p, .replaced p ∉ s.news sg) : Silent (s.after sg) h (more ++ s.news sg) := by
  have hstep := s.channel.step_spec sg
  obtain ⟨hkeeps,hwrites⟩ := hstep.dead hs.steady hsil.dead
  have hnotStarted : sg ≠ .started none := by
    rintro rfl
    exact hstart (s.process + 1) (by simp [news, noted])
  have htold {event : Event} (hmem : event ∈ s.news sg) : event ∈ told s.process (s.channel.step sg).2 :=
    mem_told_of_dead hs.steady hsil.dead hp hnotStarted hmem
  refine {
    dead := hkeeps hnotStarted
    sent := ?sent
    wrote := ?wrote
    read := ?read
    called := ?called }
  case sent =>
    intro p id waiter request hmem
    rcases List.mem_append.mp hmem with hmem | hmem
    · exact hsil.sent p id waiter request hmem
    · simpa [mem_told] using htold hmem
  case wrote =>
    intro p line hmem
    rcases List.mem_append.mp hmem with hmem | hmem
    · exact hsil.wrote p line hmem
    · have hline := htold hmem
      simp [mem_told, hwrites] at hline
  case read =>
    intro p output hmem
    rcases List.mem_append.mp hmem with hmem | hmem
    · exact hsil.read p output hmem
    · simpa [mem_told] using htold hmem
  case called =>
    intro ticket completion hcalled hmem
    rw [← List.append_assoc, List.mem_append] at hcalled
    have hcalled : .called ticket ∈ h ++ more := by
      refine hcalled.resolve_right ?_
      intro hnew
      simpa [mem_told] using htold hnew
    rcases List.mem_append.mp hmem with hmem | hmem
    · exact hsil.called ticket completion hcalled hmem
    · have heffect := completed_mem_news.mp hmem
      rcases hstep.of_complete heffect with hother | hnew | hno | hlate | ⟨r,rfl⟩
      · exact absurd hcalled (hs.apart ticket hother)
      · have hlt := hs.known ticket hcalled
        cases sg with
        | submit command =>
          obtain rfl : s.tickets = ticket := Option.some.inj (hp.symm.trans hnew)
          exact absurd hlt (lt_irrefl _)
        | serve written | started fault | line t | lost | expire other => cases hnew
      · exact .inl hno
      · exact .inr hlate
      · obtain ⟨t,id,rfl,-,hpending,-⟩ := hstep.reply heffect
        rw [hs.steady.idle hsil.dead] at hpending
        cases hpending

theorem Reaches.silent (hr : Reaches s h) (hdead : s.channel.alive = false) (hs : Runs s more s')
    (hstart : ∀ p, .replaced p ∉ more) : Silent s' h more := by
  induction hs with
  | refl => exact ⟨hdead,by simp,by simp,by simp,by simp⟩
  | @next s' s'' more news hs ht ih =>
    have hsil := ih fun p hmem => hstart p (List.mem_append_left _ hmem)
    have hsound := (hr.runs hs).sound
    cases ht with
    | signal sg hp => exact hsil.signal hsound hp fun p hmem => hstart p (List.mem_append_right _ hmem)
    | write process output hp =>
      rw [List.append_nil]
      exact ⟨hsil.dead,hsil.sent,hsil.wrote,hsil.read,hsil.called⟩
    | late request hstop =>
      refine ⟨hsil.dead,fun p id waiter request hmem => ?_,fun p line hmem => ?_,fun p output hmem => ?_,
        fun ticket completion hcalled hmem => ?_⟩
      · exact hsil.sent p id waiter request (by simpa using hmem)
      · exact hsil.wrote p line (by simpa using hmem)
      · exact hsil.read p output (by simpa using hmem)
      · have hmem : .completed ticket completion ∈ more := by simpa using hmem
        refine hsil.called ticket completion ?_ hmem
        rw [← List.append_assoc, List.mem_append] at hcalled
        refine hcalled.resolve_right fun hnew => ?_
        obtain rfl : ticket = s'.tickets := by simpa using hnew
        have hdone : s'.tickets ∈ completions (h ++ more) :=
          mem_completions.mpr ⟨completion,List.mem_append_right _ hmem⟩
        have hlt := hsound.conserved.subset (List.mem_append_left _ hdone)
        simp at hlt

/-! ## What has to do with one call -/

/-- What has to be seen of a step, for it to spare all calls but one. -/
theorem Spares.of_step {own : Option Ticket} {c : Channel} {effects : List Effect}
    (hstep : s.channel.step sg = (c,effects)) (halive : c.alive = s.channel.alive)
    (hreading : c.reading = s.channel.reading)
    (hpending : ∀ id ticket, own ≠ some ticket → ((id,some ticket) ∈ c.pending ↔ (id,some ticket) ∈ s.channel.pending))
    (hqueue : ∀ ticket request, own ≠ some ticket →
      (.call (some ticket) request ∈ c.queue ↔ .call (some ticket) request ∈ s.channel.queue))
    (heffects : ∀ ticket completion, own ≠ some ticket → .complete ticket completion ∉ effects) : Spares s sg own := by
  have hafter : (s.after sg).channel = c := by rw [after_channel, hstep]
  refine ⟨?_,?_,?_,?_,fun ticket completion hne hmem => ?_⟩
  · rwa [hafter]
  · rwa [hafter]
  · rwa [hafter]
  · rwa [hafter]
  · rw [completed_mem_news, hstep] at hmem
    exact heffects ticket completion hne hmem

theorem Spares.of_unchanged (hstep : s.channel.step sg = (s.channel,[])) (own : Option Ticket) : Spares s sg own :=
  .of_step hstep rfl rfl (fun _ _ _ => .rfl) (fun _ _ _ => .rfl) (fun _ _ _ => List.not_mem_nil)

theorem forget_eq_some {late : Ticket} {waiter : Option Ticket} :
    forget late waiter = some ticket ↔ waiter = some ticket ∧ ticket ≠ late := by
  by_cases hw : waiter = some late
  · rw [forget, if_pos hw, hw]
    constructor
    · intro he
      cases he
    · rintro ⟨he,hne⟩
      exact absurd (Option.some.inj he).symm hne
  · rw [forget, if_neg hw]
    refine (and_iff_left_of_imp ?_).symm
    rintro rfl rfl
    exact hw rfl

theorem spares_expire (s : Wiring) (late : Ticket) : Spares s (.expire late) (some late) := by
  have hother {ticket : Ticket} (hne : some late ≠ some ticket) : ticket ≠ late := fun he => hne (congrArg some he.symm)
  by_cases ha : s.channel.awaits late = true
  · refine .of_step (Step.expired ha).step_eq rfl rfl (fun id ticket hne => ?_) (fun ticket request hne => ?_)
      (fun ticket completion hne hmem => ?_)
    · constructor
      · intro hmem
        obtain ⟨⟨number,waiter⟩,hold,he⟩ := List.mem_map.mp hmem
        obtain ⟨rfl,hforget⟩ := Prod.mk.inj he
        obtain ⟨rfl,-⟩ := forget_eq_some.mp hforget
        exact hold
      · intro hmem
        exact List.mem_map.mpr ⟨_,hmem,Prod.ext rfl (forget_eq_some.mpr ⟨rfl,hother hne⟩)⟩
    · constructor
      · intro hmem
        obtain ⟨command,hold,he⟩ := List.mem_map.mp hmem
        cases command with
        | restart other | shutdown other => cases he
        | call waiter asked =>
          obtain ⟨hforget,rfl⟩ := Command.call.inj he
          obtain ⟨rfl,-⟩ := forget_eq_some.mp hforget
          exact hold
      · intro hmem
        refine List.mem_map.mpr ⟨_,hmem,?_⟩
        rw [Command.forget, forget_eq_some.mpr ⟨rfl,hother hne⟩]
    · exact hne (congrArg some (Effect.complete.inj (List.mem_singleton.mp hmem)).1.symm)
  · exact .of_unchanged (Step.notAwaited (Bool.not_eq_true _ ▸ ha)).step_eq _

theorem spares_reply (hs : s.channel.Steady) {t : Text} {e : Wire.Envelope Wire.Reply}
    (hread : Wire.Envelope.read? t = some e) : Spares s (.line t) (s.channel.pending.lookup e.id).join := by
  by_cases hreading : s.channel.reading = true
  · cases hp : s.channel.pending.lookup e.id with
    | none =>
      refine .of_unchanged (Step.ignored fun _ e' he' => ?_).step_eq _
      obtain rfl := Option.some.inj (hread.symm.trans he')
      exact hp
    | some waiter =>
      refine .of_step (Step.delivered hreading hread hp).step_eq rfl rfl (fun id ticket hne => ?_) (fun _ _ _ => .rfl)
        (fun ticket completion hne => ?_)
      · rw [List.mem_filter]
        refine and_iff_left_of_imp fun hmem => decide_eq_true ?_
        rintro rfl
        exact hne (congrArg Option.join (hp.symm.trans (lookup_of_mem hs.distinct hmem)))
      · rw [complete_mem_completeAll, List.mem_singleton]
        rintro ⟨rfl,-⟩
        exact hne rfl
  · exact .of_unchanged (Step.ignored fun h => absurd h hreading).step_eq _

/-! ## The channel as a whole -/

/-- A channel is known to be dead when it is, and strands no caller. -/
theorem alive_faithful (hr : Reaches s h) : Faithful s h := by
  have hs := hr.sound
  have hst := hs.steady
  refine {
    alive_iff := by rw [hst.alive_eq]
    idle := hst.idle
    numbered := hst.numbered
    kept := fun ticket hcalled hopen => hs.kept hcalled hopen
    severed := fun sg hsev => Wiring.severed hsev
    abandoned := fun written other queue ticket request ht hq hmem => abandoned_behind ht hq hmem
    silent := fun hdead s' more hruns hstart => hr.silent hdead hruns hstart
    refused := ?refused
    unanswered := ?unanswered
    settled := ?settled
    failed := ?failed
    restart := ?restart
    restarting := ?restarting
    started := ?started
    timeout := spares_expire s
    malformed := fun t ht => .of_unchanged (Step.ignored fun _ e he => by simp [ht] at he).step_eq _
    reply := fun t e he => spares_reply hst he }
  case refused =>
    intro hdead ticket request
    have hstep := (Step.refused hdead : Step s.channel (.submit (.call (some ticket) request)) _ _).step_eq
    refine ⟨?_,by rw [after_channel, hstep]⟩
    simp [news, hstep, noted, accepted, hdead, told, refusal, completeAll]
  case unanswered =>
    intro hdead ht ticket request queue hq written
    have hstep := (Step.unanswered ht hq hdead : Step s.channel (.serve written) _ _).step_eq
    refine ⟨?_,by rw [after_channel, hstep]⟩
    simp [news, hstep, noted, sends, hq, hdead, told, completeAll]
  case settled =>
    intro hdead hqueue ticket hcalled
    by_contra hopen
    rcases hs.kept hcalled hopen with ⟨request,hmem⟩ | ⟨id,hmem⟩
    · simp [hqueue] at hmem
    · simp [hst.idle hdead] at hmem
  case failed =>
    intro ticket fault hre
    have hstep := (Step.started hre : Step s.channel (.started (some fault)) _ _).step_eq
    have hstop := (hst.replacing (by simp [hre])).2
    refine ⟨?_,by rw [after_channel, hstep]; rfl,?_⟩
    · simp [news, hstep, noted, told]
    · rw [after_channel, hstep, takes_iff]
      exact ⟨hstop,rfl⟩
  case restart =>
    intro ticket hstop
    have hasks : s.channel.accepts (.restart ticket) = true := by simpa [accepts] using hstop
    rw [after_channel, (Step.enqueued hasks).step_eq]
  case restarting =>
    intro ht ticket queue hq written
    have hstep := (Step.replacing ht hq : Step s.channel (.serve written) _ _).step_eq
    exact ⟨by rw [after_channel, hstep],by simp [hstep]⟩
  case started =>
    intro ticket hre
    have hstep := (Step.started hre : Step s.channel (.started none) _ _).step_eq
    refine ⟨?_,by rw [after_channel, hstep]; rfl⟩
    simp [news, hstep, noted, told]

/-- The process ends while it owes an answer, and no other one can be started. -/
theorem alive_faithful_lost : ∃ s h, Reaches s h ∧ s.channel.alive = false ∧ .completed 0 .noAnswer ∈ h ∧
    .completed 1 (.restarted (some .notAlive)) ∈ h ∧ .completed 2 .notAlive ∈ h ∧ Faithful s h := by
  have hsent := (Reaches.start.next (.signal (.submit (.call (some 0) .execute)) rfl)).next
    (.signal (.serve true) trivial)
  have hlost := (hsent.next (.write 0 .lost le_rfl)).next (.signal .lost (by decide))
  have hfailed := ((hlost.next (.signal (.submit (.restart 1)) rfl)).next
    (.signal (.serve true) trivial)).next (.signal (.started (some .notAlive)) (by decide))
  have hrefused := hfailed.next (.signal (.submit (.call (some 2) .flush)) rfl)
  exact ⟨_,_,hrefused,by decide +kernel,by decide +kernel,by decide +kernel,by decide +kernel,alive_faithful hrefused⟩

end Wiring
end StatementPad.Channel

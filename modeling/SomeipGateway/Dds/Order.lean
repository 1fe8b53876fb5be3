import SomeipGateway.Dds.Network

/-! Order in a DDS domain. What one gateway writes to a topic keeps its order on the way;
between gateways there is none. -/
namespace SomeipGateway.Dds

open Lib

variable {ι σ κ : Type}

/-! ### What one gateway wrote -/

section

variable [DecidableEq ι]

/-- What came out at a reader, what waits there and what flies there: for every
gateway it comes from, a part of what that gateway wrote reliably, in the same order. -/
def InOrder (site : ι) (topic : Text) (waiting : List (ι × ReceivedSample))
    (flying : ι → List ReceivedSample) (log : List (ι × Output)) : Prop :=
  ∃ taken : List (ι × ReceivedSample), deliveredAt site topic log = taken.map Prod.snd ∧
    ∀ source, List.Sublist (samplesOf source (taken ++ waiting) ++ flying source)
      (reliableOn source topic log)

variable {site : ι} {topic : Text} {waiting less : List (ι × ReceivedSample)}
  {flying fewer : ι → List ReceivedSample} {log : List (ι × Output)}

theorem InOrder.shrink (h : InOrder site topic waiting flying log)
    (hwaiting : List.Sublist less waiting)
    (hflying : ∀ source, List.Sublist (fewer source) (flying source)) :
    InOrder site topic less fewer log := by
  obtain ⟨taken, hdelivered, horder⟩ := h
  refine ⟨taken, hdelivered, fun source => ?_⟩
  have hsamples := samplesOf_sublist source (hwaiting.append_left taken)
  exact (hsamples.append (hflying source)).trans (horder source)

/-- The log grows by writes, and some of these begin to fly. -/
theorem InOrder.write (h : InOrder site topic waiting flying log) {outputs : List (ι × Output)}
    (hquiet : deliveredAt site topic outputs = []) (offered : ι → List ReceivedSample)
    (hoffered : ∀ source, List.Sublist (offered source) (reliableOn source topic outputs)) :
    InOrder site topic waiting (fun source => flying source ++ offered source)
      (log ++ outputs) := by
  obtain ⟨taken, hdelivered, horder⟩ := h
  refine ⟨taken, ?_, fun source => ?_⟩
  · rw [deliveredAt_append, hquiet, List.append_nil, hdelivered]
  · rw [reliableOn_append, ← List.append_assoc]
    exact (horder source).append (hoffered source)

theorem InOrder.arrive (h : InOrder site topic waiting flying log) {source : ι}
    {sample : ReceivedSample} {rest : List ReceivedSample}
    (hflying : flying source = sample :: rest) :
    InOrder site topic (waiting ++ [(source, sample)])
      (Function.update flying source rest) log := by
  obtain ⟨taken, hdelivered, horder⟩ := h
  refine ⟨taken, hdelivered, fun other => ?_⟩
  have hbefore := horder other
  rw [← List.append_assoc, samplesOf_append]
  by_cases hother : other = source
  · subst hother
    have hlast : samplesOf other [(other, sample)] = [sample] := by simp [samplesOf]
    rw [hflying] at hbefore
    rw [hlast, Function.update_self, List.append_assoc, List.singleton_append]
    exact hbefore
  · have hlast : samplesOf other [(source, sample)] = [] := by
      simp [samplesOf, Ne.symm hother]
    rw [hlast, Function.update_of_ne hother, List.append_nil]
    exact hbefore

/-- Two samples are taken, and both or none of them delivered. -/
theorem InOrder.take (h : InOrder site topic waiting flying log) {outputs : List (ι × Output)}
    (hoff : ∀ source, reliableOn source topic outputs = [])
    (houtputs : deliveredAt site topic outputs = (waiting.take 2).map Prod.snd ∨
      deliveredAt site topic outputs = []) :
    InOrder site topic (waiting.drop 2) flying (log ++ outputs) := by
  rcases houtputs with hsome | hnone
  · obtain ⟨taken, hdelivered, horder⟩ := h
    refine ⟨taken ++ waiting.take 2, ?_, fun source => ?_⟩
    · rw [deliveredAt_append, hdelivered, hsome, List.map_append]
    · rw [reliableOn_append, hoff source, List.append_nil, List.append_assoc,
        List.take_append_drop]
      exact horder source
  · have hfewer := h.shrink (List.drop_sublist 2 waiting) fun source => List.Sublist.refl _
    obtain ⟨taken, hdelivered, horder⟩ := hfewer
    refine ⟨taken, ?_, fun source => ?_⟩
    · rw [deliveredAt_append, hnone, List.append_nil, hdelivered]
    · rw [reliableOn_append, hoff source, List.append_nil]
      exact horder source

/-- `read` says that nothing is for a reader that is not there. -/
structure Ordered (state : DomainState ι σ) (log : List (ι × Output)) : Prop where
  sound : ∀ site, ReadersSound (state.gateways site).readers
  read : ∀ site topic, (state.gateways site).reads topic = false →
    state.waiting site topic = [] ∧ ∀ source, state.flying source site topic = []
  order : ∀ site topic, InOrder site topic (state.waiting site topic)
    (fun source => state.flying source site topic) log

variable {setups : ι → Setup σ κ} {state : DomainState ι σ}

/-- Losses. -/
theorem Ordered.shrink (h : Ordered state log) {now : DomainState ι σ}
    (hgateways : now.gateways = state.gateways)
    (hwaiting : ∀ site topic, List.Sublist (now.waiting site topic) (state.waiting site topic))
    (hflying : ∀ source site topic,
      List.Sublist (now.flying source site topic) (state.flying source site topic)) :
    Ordered now log where
  sound := hgateways ▸ h.sound
  read := by
    intro site topic hreads
    rw [hgateways] at hreads
    obtain ⟨hnone, hnone'⟩ := h.read site topic hreads
    have hwaits := hwaiting site topic
    rw [hnone] at hwaits
    refine ⟨List.sublist_nil.mp hwaits, fun source => ?_⟩
    have hflies := hflying source site topic
    rw [hnone' source] at hflies
    exact List.sublist_nil.mp hflies
  order := fun site topic =>
    (h.order site topic).shrink (hwaiting site topic) fun source => hflying source site topic

theorem callAt_gateways (state : DomainState ι σ) (site other : ι) (call : Call) :
    (callAt setups state site call).1.gateways other =
      if other = site then (step (setups site) (state.gateways site) call).1
      else state.gateways other := by
  rw [callAt]
  exact Function.update_apply ..

theorem callAt_sound (h : Ordered state log) (site : ι) (call : Call) (other : ι) :
    ReadersSound ((callAt setups state site call).1.gateways other).readers := by
  rw [callAt_gateways]
  split_ifs
  · exact step_readersSound (setups site) call (h.sound site)
  · exact h.sound other

theorem callAt_read (h : Ordered state log) (site : ι) (call : Call) (other : ι) (topic : Text)
    (hreads : ((callAt setups state site call).1.gateways other).reads topic = false) :
    (callAt setups state site call).1.waiting other topic = [] ∧
      ∀ source, (callAt setups state site call).1.flying source other topic = [] := by
  rw [callAt_gateways] at hreads
  by_cases hother : other = site
  · rw [if_pos hother] at hreads
    have hgone : other = site ∧
        !(step (setups site) (state.gateways site) call).1.reads topic := by
      rw [hreads]
      exact ⟨hother, rfl⟩
    exact ⟨if_pos hgone, fun source => if_pos hgone⟩
  · rw [if_neg hother] at hreads
    obtain ⟨hwaiting, hflying⟩ := h.read other topic hreads
    have hkept : ¬ (other = site ∧
        !(step (setups site) (state.gateways site) call).1.reads topic) := fun hgone =>
      hother hgone.1
    refine ⟨?_, fun source => ?_⟩
    · rw [callAt]
      exact (if_neg hkept).trans hwaiting
    · rw [callAt]
      exact (if_neg hkept).trans (hflying source)

variable (setups) in
theorem callAt_sublist (state : DomainState ι σ) (site : ι) (call : Call) (source other : ι)
    (topic : Text) :
    List.Sublist ((callAt setups state site call).1.waiting other topic)
        (state.waiting other topic) ∧
      List.Sublist ((callAt setups state site call).1.flying source other topic)
        (state.flying source other topic) := by
  dsimp only [callAt]
  split_ifs
  · exact ⟨List.nil_sublist _, List.nil_sublist _⟩
  · exact ⟨List.Sublist.refl _, List.Sublist.refl _⟩

/-- A call that delivers nothing, if what it writes reaches nobody. -/
theorem callAt_ordered (h : Ordered state log) (site : ι) (call : Call)
    (hquiet : ∀ other topic, deliveredAt other topic (callAt setups state site call).2 = []) :
    Ordered (callAt setups state site call).1 (log ++ (callAt setups state site call).2) where
  sound := callAt_sound h site call
  read := callAt_read h site call
  order := by
    intro other topic
    have hfewer := (h.order other topic).shrink
      (callAt_sublist setups state site call other other topic).1
      fun source => (callAt_sublist setups state site call source other topic).2
    have hwritten := hfewer.write (hquiet other topic) (fun _ => []) fun source =>
      List.nil_sublist _
    simpa only [List.append_nil] using hwritten

theorem reachedBy_unread {gw : DdsGateway σ} (hreads : gw.reads topic = false)
    (writes : List Write) : gw.reachedBy topic writes = [] := by
  unfold DdsGateway.reachedBy
  rw [List.map_eq_nil_iff, List.filter_eq_nil_iff]
  intro write hwrite hreached
  obtain ⟨htopic, hany⟩ := of_decide_eq_true hreached
  obtain ⟨reader, hreader, hmatches⟩ := List.any_eq_true.mp hany
  have hsame : reader.topic = topic := by
    rw [← htopic]
    exact (eq_of_beq (Bool.and_eq_true_iff.mp hmatches).1).symm
  have hread : gw.reads topic = true := List.any_eq_true.mpr ⟨reader, hreader, by simp [hsame]⟩
  rw [hread] at hreads
  cases hreads

theorem reachedBy_cons (gw : DdsGateway σ) (topic : Text) (write : Write)
    (writes : List Write) :
    gw.reachedBy topic (write :: writes) =
      (if write.writer.topic = topic ∧
          gw.readers.any fun reader => write.writer.matches reader then
        [write.sample.received]
      else []) ++ gw.reachedBy topic writes := by
  unfold DdsGateway.reachedBy
  rw [List.filter_cons]
  split_ifs with hreached hreached' hreached'
  · rfl
  · exact absurd (of_decide_eq_true hreached) hreached'
  · exact absurd (decide_eq_true hreached') hreached
  · rfl

theorem reliableOn_written (site : ι) (topic : Text) (msg : Message) (write : Write)
    (log : List (ι × Output)) :
    reliableOn site topic ((site, .written msg write) :: log) =
      (if write.writer.topic = topic ∧ write.writer.qos.reliability = .reliable then
        [write.sample.received]
      else []) ++ reliableOn site topic log := by
  by_cases hreliable : write.writer.topic = topic ∧ write.writer.qos.reliability = .reliable
  · simp [reliableOn, hreliable]
  · simp [reliableOn, hreliable]

/-- What reaches a reader was written reliably. -/
theorem reachedBy_sublist {gw : DdsGateway σ} (hsound : ReadersSound gw.readers) (site : ι)
    (topic : Text) (outputs : List Output) :
    List.Sublist (gw.reachedBy topic (writesOf outputs))
      (reliableOn site topic (outputs.map fun output => (site, output))) := by
  induction outputs with
  | nil => exact List.Sublist.refl _
  | cons output rest ih =>
      cases output with
      | written msg write =>
          have hhead : writesOf (.written msg write :: rest) = write :: writesOf rest := rfl
          rw [hhead, reachedBy_cons, List.map_cons, reliableOn_written]
          apply List.Sublist.append _ ih
          split_ifs with hreached hreliable hreliable
          · exact List.Sublist.refl _
          · obtain ⟨reader, hreader, hmatches⟩ := List.any_eq_true.mp hreached.2
            have hasked := hsound.reliable reader hreader
            exact absurd ⟨hreached.1, matches_reliable hasked hmatches⟩ hreliable
          · exact List.nil_sublist _
          · exact List.Sublist.refl _
      | delivered msg reader sample => exact ih
      | injected msg => exact ih

theorem offer_flying (state : DomainState ι σ) (source : ι) (writes : List Write)
    (source' site : ι) (topic : Text) :
    (offer state source writes).flying source' site topic =
      state.flying source' site topic ++
        if source' = source then (state.gateways site).reachedBy topic writes else [] := by
  dsimp only [offer]
  split_ifs
  · rfl
  · exact (List.append_nil _).symm

theorem offer_ordered (h : Ordered state log) (site : ι) (call : Call)
    (hquiet : ∀ other topic, deliveredAt other topic (callAt setups state site call).2 = []) :
    Ordered (offer (callAt setups state site call).1 site
        (writesOf ((callAt setups state site call).2.map Prod.snd)))
      (log ++ (callAt setups state site call).2) where
  sound := callAt_sound h site call
  read := by
    intro other topic hreads
    obtain ⟨hwaiting, hflying⟩ := callAt_read h site call other topic hreads
    refine ⟨hwaiting, fun source => ?_⟩
    rw [offer_flying, hflying source, List.nil_append]
    split_ifs
    · exact reachedBy_unread hreads _
    · rfl
  order := by
    intro other topic
    have hfewer := (h.order other topic).shrink
      (callAt_sublist setups state site call other other topic).1
      fun source => (callAt_sublist setups state site call source other topic).2
    simp only [offer_flying]
    apply hfewer.write (hquiet other topic)
    intro source
    split_ifs with hsource
    · subst hsource
      have hsound : ReadersSound ((callAt setups state source call).1.gateways other).readers :=
        callAt_sound h source call other
      have hsub := reachedBy_sublist hsound source topic
        (step (setups source) (state.gateways source) call).2
      simpa [callAt, Function.comp_def] using hsub
    · exact List.nil_sublist _

variable (setups state) in
/-- What a turn of the reader loop delivers. -/
theorem passAt_delivered (h : Ordered state log) (site : ι) (sink : Bool) (other : ι)
    (topic : Text) :
    deliveredAt other topic (passAt setups state site sink).2 =
      if other = site ∧ sink ∧ (state.gateways site).reading then
        ((state.waiting site topic).take 2).map Prod.snd
      else [] := by
  have houtputs : (passAt setups state site sink).2 =
      (if (state.gateways site).reading then
        (state.gateways site).readers.flatMap (passOutputs sink fun topic =>
          ((state.waiting site topic).map Prod.snd).map fun s => { sample := some s })
      else []).map fun output => (site, output) := by
    simp only [passAt, callAt, DomainState.turn, step, readerPass_outputs]
  rw [houtputs]
  by_cases hreading : (state.gateways site).reading
  · rw [if_pos hreading]
    by_cases hother : other = site
    · subst hother
      rw [deliveredAt_readers other topic sink
        (fun topic => (state.waiting other topic).map Prod.snd) (h.sound other).topics]
      by_cases hread : topic ∈ (state.gateways other).readers.map Reader.topic
      · simp [hread, hreading, List.map_take]
      · have hunread : (state.gateways other).reads topic = false := by
          simpa [DdsGateway.reads] using hread
        simp [hread, (h.read other topic hunread).1]
    · have hnone (outputs : List Output) :
          deliveredAt other topic (outputs.map fun output => (site, output)) = [] := by
        rw [deliveredAt, List.filterMap_map, List.filterMap_eq_nil_iff]
        rintro (_ | _ | _) - <;> simp [Ne.symm hother]
      rw [hnone, if_neg fun hall => hother hall.1]
  · rw [if_neg hreading, if_neg fun hall => hreading hall.2.2]
    rfl

variable (setups state) in
/-- A turn changes no reader and no writer anywhere. -/
theorem passAt_entities (site : ι) (sink : Bool) (other : ι) :
    SameEntities (state.gateways other) ((passAt setups state site sink).1.gateways other) := by
  have hgateway : (passAt setups state site sink).1.gateways other =
      (callAt setups state site (state.turn site sink)).1.gateways other := rfl
  rw [hgateway, callAt_gateways]
  split_ifs with hother
  · subst hother
    exact readerPass_entities ..
  · rfl

variable (setups) in
/-- Readers stay as they are, so nothing that waits goes with one. -/
theorem turn_waiting (h : Ordered state log) (site : ι) (sink : Bool) (other : ι)
    (topic : Text) :
    (callAt setups state site (state.turn site sink)).1.waiting other topic =
      state.waiting other topic := by
  dsimp only [callAt]
  split_ifs with hgone
  · obtain ⟨rfl, hunread⟩ := hgone
    have hsame : (step (setups other) (state.gateways other) (state.turn other sink)).1.reads
        topic = (state.gateways other).reads topic :=
      (readerPass_entities sink _ (state.gateways other)).reads topic
    rw [hsame] at hunread
    exact (h.read other topic (by simpa using hunread)).1.symm
  · rfl

variable (setups) in
/-- What a turn leaves behind. -/
theorem passAt_waiting (h : Ordered state log) (site : ι) (sink : Bool) (other : ι)
    (topic : Text) :
    (passAt setups state site sink).1.waiting other topic =
      if other = site ∧ (state.gateways site).reading then (state.waiting other topic).drop 2
      else state.waiting other topic := by
  dsimp only [passAt]
  rw [turn_waiting setups h]

variable (setups) in
theorem passAt_ordered (h : Ordered state log) (site : ι) (sink : Bool) :
    Ordered (passAt setups state site sink).1 (log ++ (passAt setups state site sink).2) where
  sound := fun other => (passAt_entities setups state site sink other).readers ▸ h.sound other
  read := by
    intro other topic hreads
    rw [(passAt_entities setups state site sink other).reads] at hreads
    obtain ⟨hwaiting, hflying⟩ := h.read other topic hreads
    refine ⟨?_, fun source => ?_⟩
    · rw [passAt_waiting setups h, hwaiting]
      split_ifs <;> rfl
    · have hsub :=
        (callAt_sublist setups state site (state.turn site sink) source other topic).2
      rw [hflying source] at hsub
      exact List.sublist_nil.mp hsub
  order := by
    intro other topic
    have hfewer : InOrder other topic (state.waiting other topic)
        (fun source => (passAt setups state site sink).1.flying source other topic) log :=
      (h.order other topic).shrink (List.Sublist.refl _) fun source =>
        (callAt_sublist setups state site (state.turn site sink) source other topic).2
    have hoff (source : ι) : reliableOn source topic (passAt setups state site sink).2 = [] := by
      rw [reliableOn, List.filterMap_eq_nil_iff]
      intro entry hentry
      obtain ⟨output, houtput, rfl⟩ := List.mem_map.mp hentry
      obtain ⟨_, _, _, rfl⟩ := mem_readerPass houtput
      rfl
    have hdelivered := passAt_delivered setups state h site sink other topic
    rw [passAt_waiting setups h]
    by_cases hturn : other = site ∧ (state.gateways site).reading
    · rw [if_pos hturn]
      apply hfewer.take hoff
      obtain ⟨rfl, hreading⟩ := hturn
      cases sink with
      | false => exact .inr (by simpa using hdelivered)
      | true => exact .inl (by simpa [hreading] using hdelivered)
    · rw [if_neg hturn]
      have hnone : deliveredAt other topic (passAt setups state site sink).2 = [] := by
        rw [hdelivered, if_neg fun hall => hturn ⟨hall.1, hall.2.2⟩]
      have hwritten := hfewer.write hnone (fun _ => []) fun source => List.nil_sublist _
      simpa only [List.append_nil] using hwritten

theorem arrive_ordered (h : Ordered state log) {source site : ι} {topic : Text}
    {sample : ReceivedSample} {rest : List ReceivedSample}
    (hflying : state.flying source site topic = sample :: rest) :
    Ordered ((state.setFlying source site topic rest).setWaiting site topic
      (state.waiting site topic ++ [(source, sample)])) log where
  sound := h.sound
  read := by
    intro site' topic' hreads
    obtain ⟨hnone, hnone'⟩ := h.read site' topic' hreads
    have hother : ¬ (site' = site ∧ topic' = topic) := by
      rintro ⟨rfl, rfl⟩
      rw [hnone' source] at hflying
      cases hflying
    refine ⟨(if_neg hother).trans hnone, fun source' => ?_⟩
    exact (if_neg fun hall => hother hall.2).trans (hnone' source')
  order := by
    intro site' topic'
    by_cases hsame : site' = site ∧ topic' = topic
    · obtain ⟨rfl, rfl⟩ := hsame
      have harrived := (h.order site' topic').arrive hflying
      have hflies : (fun source' => ((state.setFlying source site' topic' rest).setWaiting site'
          topic' (state.waiting site' topic' ++ [(source, sample)])).flying source' site' topic') =
          Function.update (fun source' => state.flying source' site' topic') source rest := by
        funext source'
        simp [DomainState.setWaiting, DomainState.setFlying, Function.update_apply]
      rw [hflies]
      simpa [DomainState.setWaiting] using harrived
    · have hflies : (fun source' => ((state.setFlying source site topic rest).setWaiting site
          topic (state.waiting site topic ++ [(source, sample)])).flying source' site' topic') =
          fun source' => state.flying source' site' topic' := by
        funext source'
        exact if_neg fun hall => hsame hall.2
      have hwaits : ((state.setFlying source site topic rest).setWaiting site
          topic (state.waiting site topic ++ [(source, sample)])).waiting site' topic' =
          state.waiting site' topic' := if_neg hsame
      rw [hflies, hwaits]
      exact h.order site' topic'

variable (setups) in
/-- One of the calls that deliver nothing. -/
theorem callAt_quiet (state : DomainState ι σ) (site : ι) (call : Call)
    (hquiet : ∀ msg reader sample,
      .delivered msg reader sample ∉ (step (setups site) (state.gateways site) call).2)
    (other : ι) (topic : Text) :
    deliveredAt other topic (callAt setups state site call).2 = [] := by
  rw [deliveredAt, List.filterMap_eq_nil_iff]
  intro entry hentry
  obtain ⟨output, houtput, rfl⟩ := List.mem_map.mp hentry
  cases output with
  | written msg write => rfl
  | delivered msg reader sample => exact absurd houtput (hquiet msg reader sample)
  | injected msg => rfl

variable (setups) in
theorem domainStep_ordered (state : DomainState ι σ) (log : List (ι × Output))
    (input : DomainInput ι) (h : Ordered state log) :
    Ordered (domainStep setups state input).1 (log ++ (domainStep setups state input).2) := by
  cases input with
  | start site outcome =>
      apply callAt_ordered h
      exact callAt_quiet setups state site _ fun _ _ _ => List.not_mem_nil
  | stop site =>
      apply callAt_ordered h
      exact callAt_quiet setups state site _ fun _ _ _ => List.not_mem_nil
  | addServiceMapping site mapping =>
      apply callAt_ordered h
      exact callAt_quiet setups state site _ fun _ _ _ => List.not_mem_nil
  | onSomeipMessage site outcome msg =>
      have hquiet := callAt_quiet setups state site (.onSomeipMessage outcome msg)
        (by simp [step])
      exact offer_ordered h site _ hquiet
  | readerPass site sink => exact passAt_ordered setups h site sink
  | arrive source site topic =>
      rw [domainStep]
      cases hflying : state.flying source site topic with
      | nil =>
          rw [List.append_nil]
          exact h
      | cons sample rest =>
          rw [List.append_nil]
          exact arrive_ordered h hflying
  | lose source site topic position =>
      rw [domainStep, List.append_nil]
      apply h.shrink
      · rfl
      · exact fun _ _ => List.Sublist.refl _
      · intro source' site' topic'
        dsimp only [DomainState.setFlying]
        split_ifs with hsame
        · obtain ⟨rfl, rfl, rfl⟩ := hsame
          exact List.eraseIdx_sublist _ _
        · exact List.Sublist.refl _
  | evict site topic position =>
      rw [domainStep, List.append_nil]
      apply h.shrink
      · rfl
      · intro site' topic'
        dsimp only [DomainState.setWaiting]
        split_ifs with hsame
        · obtain ⟨rfl, rfl⟩ := hsame
          exact List.eraseIdx_sublist _ _
        · exact List.Sublist.refl _
      · exact fun _ _ _ => List.Sublist.refl _

/-! ### What crosses the domain -/

/-- The message is one that a writer is made reliable for. -/
def DomainInput.asksReliability : DomainInput ι → Prop
  | .onSomeipMessage _ _ msg =>
      msg.messageType = .request ∨ msg.messageType = .response ∨ msg.messageType = .error
  | _ => False

/-- No gateway has a writer that offers reliability. -/
def Unreliable (state : DomainState ι σ) : Prop :=
  ∀ site, ∀ writer ∈ (state.gateways site).writers, writer.qos.reliability ≠ .reliable

variable (setups) in
theorem callAt_unreliable (h : Unreliable state) (site : ι) (call : Call)
    (hcall : ∀ outcome msg, call = .onSomeipMessage outcome msg →
      (assignedQos (setups site) msg).reliability ≠ .reliable) :
    Unreliable (callAt setups state site call).1 ∧
      ∀ source msg write, (source, .written msg write) ∈ (callAt setups state site call).2 →
        write.writer.qos.reliability ≠ .reliable := by
  obtain ⟨hwriters, hwrites⟩ := step_writers (P := fun qos => qos.reliability ≠ .reliable)
    (h site) call hcall
  constructor
  · intro other
    rw [callAt_gateways]
    split_ifs
    · exact hwriters
    · exact h other
  · intro source msg write hmem
    obtain ⟨output, houtput, heq⟩ := List.mem_map.mp hmem
    cases heq
    exact hwrites msg write houtput

variable (setups) in
theorem domainStep_unreliable (h : Unreliable state) {input : DomainInput ι}
    (hinput : ¬ input.asksReliability) :
    Unreliable (domainStep setups state input).1 ∧
      ∀ source msg write, (source, .written msg write) ∈ (domainStep setups state input).2 →
        write.writer.qos.reliability ≠ .reliable := by
  cases input with
  | start site outcome => exact callAt_unreliable setups h site _ fun _ _ heq => by cases heq
  | stop site => exact callAt_unreliable setups h site _ fun _ _ heq => by cases heq
  | addServiceMapping site mapping =>
      exact callAt_unreliable setups h site _ fun _ _ heq => by cases heq
  | onSomeipMessage site outcome msg =>
      have hcall := callAt_unreliable setups h site (.onSomeipMessage outcome msg) (by
        intro outcome' msg' heq
        cases heq
        rw [ne_eq, assignedQos_reliable_iff]
        exact hinput)
      exact ⟨hcall.1, hcall.2⟩
  | readerPass site sink => exact callAt_unreliable setups h site _ fun _ _ heq => by cases heq
  | arrive source site topic =>
      rw [domainStep]
      cases state.flying source site topic with
      | nil => exact ⟨h, fun _ _ _ hmem => absurd hmem List.not_mem_nil⟩
      | cons sample rest => exact ⟨h, fun _ _ _ hmem => absurd hmem List.not_mem_nil⟩
  | lose source site topic position =>
      exact ⟨h, fun _ _ _ hmem => absurd hmem List.not_mem_nil⟩
  | evict site topic position => exact ⟨h, fun _ _ _ hmem => absurd hmem List.not_mem_nil⟩

variable (setups) in
/-- A reliable write has a request, a response or an error behind it. -/
theorem asked_of_reliable (h : Unreliable state) {inputs : List (DomainInput ι)} {source : ι}
    {msg : Message} {write : Write}
    (hwritten : (source, .written msg write) ∈
      (Machine.run (domainStep setups) state inputs).2)
    (hreliable : write.writer.qos.reliability = .reliable) :
    ∃ input ∈ inputs, input.asksReliability := by
  by_contra hnone
  push Not at hnone
  obtain ⟨before, input, after, rfl, hmem⟩ := Machine.mem_run.mp hwritten
  have hbefore : Unreliable (Machine.run (domainStep setups) state before).1 := by
    have hquiet : Machine.Along (domainStep setups) (fun _ input => ¬ input.asksReliability)
        state before :=
      Machine.along_of_forall fun _ input hinput => hnone input (List.mem_append_left _ hinput)
    have hkept (state : DomainState ι σ) (input : DomainInput ι) (hstate : Unreliable state)
        (hinput : ¬ input.asksReliability) : Unreliable (domainStep setups state input).1 :=
      (domainStep_unreliable setups hstate hinput).1
    exact Machine.run_invariant_along (domainStep setups) hkept state before h hquiet
  have hinput := hnone input (List.mem_append_right _ List.mem_cons_self)
  exact (domainStep_unreliable setups hbefore hinput).2 source msg write hmem hreliable

theorem InOrder.reliable_of_delivered (h : InOrder site topic waiting flying log)
    (hdelivered : deliveredAt site topic log ≠ []) :
    ∃ source msg write, (source, .written msg write) ∈ log ∧
      write.writer.qos.reliability = .reliable := by
  obtain ⟨taken, heq, horder⟩ := h
  cases taken with
  | nil => exact absurd heq hdelivered
  | cons first rest =>
      obtain ⟨source, sample⟩ := first
      have hmem : sample ∈ samplesOf source ((source, sample) :: rest ++ waiting) :=
        List.mem_map.mpr ⟨(source, sample), by simp, rfl⟩
      have hreliable := (horder source).subset (List.mem_append_left _ hmem)
      obtain ⟨entry, hentry, hsome⟩ := List.mem_filterMap.mp hreliable
      obtain ⟨other, output⟩ := entry
      cases output with
      | written msg write =>
          dsimp only at hsome
          split_ifs at hsome with hall
          exact ⟨other, msg, write, hentry, hall.2.2⟩
      | delivered msg reader sample => cases hsome
      | injected msg => cases hsome

variable (setups) in
/-- Turn after turn, a gateway that reads hands over what waits, two at a time. -/
theorem turns_deliver (site : ι) (topic : Text) (turns : Nat) (h : Ordered state log)
    (hreading : (state.gateways site).reading) :
    deliveredAt site topic (Machine.run (domainStep setups) state
        (List.replicate turns (.readerPass site true))).2 =
      ((state.waiting site topic).take (2 * turns)).map Prod.snd := by
  induction turns generalizing state log with
  | zero => rfl
  | succ turns ih =>
      have hnow := passAt_delivered setups state h site true site topic
      have hleft := passAt_waiting setups h site true site topic
      have hreading' : ((passAt setups state site true).1.gateways site).reading := by
        rw [(passAt_entities setups state site true site).reading]
        exact hreading
      have hlater := ih (passAt_ordered setups h site true) hreading'
      rw [if_pos ⟨rfl, rfl, hreading⟩] at hnow
      rw [if_pos ⟨rfl, hreading⟩] at hleft
      have htwo : 2 * (turns + 1) = 2 + 2 * turns := by omega
      rw [List.replicate_succ, Machine.run_cons, deliveredAt_append, domainStep, hnow, hlater,
        hleft, ← List.map_append, ← List.take_add, htwo]

theorem ordered_fresh (mappings : ι → List ServiceMapping) (e2e : ι → σ)
    (udpTransport : ι → Bool) :
    Ordered { gateways := fun site => fresh (mappings site) (e2e site) (udpTransport site) }
      [] where
  sound := fun _ => ReadersSound.nil
  read := fun _ _ _ => ⟨rfl, fun _ => rfl⟩
  order := fun _ _ => ⟨[], rfl, fun _ => List.Sublist.refl _⟩

variable (setups) in
/-- However the calls at the gateways of a domain and the events of the middleware
interleave: what comes out of a reader, and what is still to come, is for every gateway
that wrote it a part of what that gateway wrote reliably to the topic, in that order and
each sample once. Nothing comes out anywhere before some gateway got a request, a response
or an error. And what waits for a gateway that reads is handed over, two samples a turn. -/
theorem domain_delivers_in_order (mappings : ι → List ServiceMapping) (e2e : ι → σ)
    (udpTransport : ι → Bool) (inputs : List (DomainInput ι)) (site : ι) (topic : Text) :
    let after := Machine.run (domainStep setups)
      { gateways := fun site => fresh (mappings site) (e2e site) (udpTransport site) } inputs
    (∃ taken : List (ι × ReceivedSample),
      deliveredAt site topic after.2 = taken.map Prod.snd ∧
        ∀ source, List.Sublist
          (samplesOf source (taken ++ after.1.waiting site topic) ++
            after.1.flying source site topic)
          (reliableOn source topic after.2)) ∧
      (deliveredAt site topic after.2 ≠ [] → ∃ input ∈ inputs, input.asksReliability) ∧
      ((after.1.gateways site).reading → ∀ turns,
        deliveredAt site topic (Machine.run (domainStep setups) after.1
            (List.replicate turns (.readerPass site true))).2 =
          ((after.1.waiting site topic).take (2 * turns)).map Prod.snd) := by
  intro after
  have hordered := Machine.run_history (domainStep setups) Ordered (domainStep_ordered setups)
    _ [] inputs (ordered_fresh mappings e2e udpTransport)
  rw [List.nil_append] at hordered
  refine ⟨hordered.order site topic, fun hdelivered => ?_, fun hreading turns => ?_⟩
  · obtain ⟨source, msg, write, hwritten, hreliable⟩ :=
      (hordered.order site topic).reliable_of_delivered hdelivered
    exact asked_of_reliable setups (fun _ _ hmem => absurd hmem List.not_mem_nil) hwritten
      hreliable
  · exact turns_deliver setups site topic turns hordered hreading

end

end SomeipGateway.Dds

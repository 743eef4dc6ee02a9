import SenderPolicy.CommandLine.Disk
import SenderPolicy.Proofs.Bytes
import SenderPolicy.Proofs.Keeping
import SenderPolicy.Proofs.Words

/-!
# Runs over many senders

A run over the lines of its input reports what a run for each of them alone would report (`run_batch`), if the answers
of the resolver are fixed. A line and a command are read in two ways, which tell the same deliveries apart from blanks
around an address, and a word has none (`Delivery.checkLine_eq`). The checks share one resolver and perhaps one cache,
but nobody notices, since all that the cache ever holds are answers of the resolver.

There is one exception: a run that would keep an answer beyond the times that a clock can tell does not survive it. For
a run over many lines that is the end of all its reports, also of those for the lines before.
-/

namespace SenderPolicy

namespace CommandLine

variable {σ τ : Type}

/-! ## Lines -/

/-- The lines that say nothing: those that are blank, and comments. -/
def isSkipped (t : Text) : Bool :=
  (Text.trim t).head?.all (· == '#')

/-- The delivery that fields tell: a sender, an address or else an empty one, and a HELO identity if there is a third. -/
def Delivery.ofFields (fields : List Text) : Delivery :=
  ⟨fields.headD [], fields[1]?.getD [], fields[2]?⟩

/-- A line tells a delivery by its words, unless it says nothing. -/
lemma Delivery.ofLine?_eq (t : Text) :
    Delivery.ofLine? t = if isSkipped t then none else some (.ofFields (Text.words Text.isBlank t)) := by
  rw [Delivery.ofLine?, isSkipped, ← Text.words_trim]
  cases htrim : Text.trim t with
  | nil =>
    rw [Text.words_nil]
    rfl
  | cons c rest =>
    obtain ⟨w, ws, hwords⟩ := Text.exists_words_eq_cons (Text.isBlank_of_trim_eq_cons htrim) rest
    rw [hwords]
    by_cases hc : c = '#'
    · rw [hc]
      rfl
    · rcases ws with _ | ⟨address, _ | ⟨helo, ws⟩⟩
      · simp [hc, ofFields]
      · simp [hc, ofFields]
      · simp [hc, ofFields]

/-- The deliveries of a text, line by line. -/
lemma deliveriesOfText_eq (t : Text) :
    deliveriesOfText t = ((Text.pieces (· == '\n') t).filter fun line => !isSkipped line).map fun line =>
      Delivery.ofFields (Text.words Text.isBlank line) := by
  rw [deliveriesOfText]
  induction Text.pieces (· == '\n') t with
  | nil => rfl
  | cons line lines ih =>
    rw [List.filterMap_cons, List.filter_cons, ih, Delivery.ofLine?_eq]
    cases isSkipped line <;> rfl

/-! ## Deliveries one after the other -/

namespace Delivery

/-- What is asked about a delivery. -/
def inquiry (d : Delivery) : Inquiry :=
  match d.helo, Address.ofText? (Text.trim d.address) with
  | some helo, some client => .address d.sender client (some helo)
  | _, _ => .text d.sender d.address

/-- A command asks what its delivery is about. -/
lemma checkCommand_eq (E : Engine σ) (d : Delivery) (state : σ) :
    d.checkCommand E state = E.answer state d.inquiry := by
  rw [checkCommand, Engine.checkFields.eq_def, inquiry.eq_def]
  cases d.helo with
  | none => rfl
  | some helo =>
    cases Address.ofText? (Text.trim d.address) with
    | none => rfl
    | some client => rfl

/-- An address without blanks is read the same way as a word and as an argument. -/
lemma checkLine_eq (E : Engine σ) {d : Delivery} (hblank : ∀ c ∈ d.address, Text.isBlank c = false) (state : σ) :
    d.checkLine E state = E.answer state d.inquiry := by
  rw [checkLine, inquiry.eq_def, Text.trim_eq_of_unblank hblank]
  cases d.helo with
  | none => rfl
  | some helo =>
    cases Address.ofText? d.address with
    | none => rfl
    | some client => rfl

/-- An address that is a word has no blanks, and neither has one that is missing. -/
lemma isBlank_of_mem_address {fields : List Text} (hfields : ∀ w ∈ fields, ∀ c ∈ w, Text.isBlank c = false) {c : Char}
    (hc : c ∈ (ofFields fields).address) : Text.isBlank c = false := by
  rw [ofFields] at hc
  cases hfield : fields[1]? with
  | none =>
    rw [hfield] at hc
    cases hc
  | some address =>
    rw [hfield] at hc
    exact hfields address (List.mem_of_getElem? hfield) c hc

end Delivery

/-- The outcome of a delivery that is checked alone. -/
def row (E : Engine σ) (state : σ) (d : Delivery) : Outcome :=
  (d.checkCommand E state).1

/-- Deliveries have the outcomes that each of them has alone, while an invariant of the resolver keeps it in step with one
that has no memory. By induction on the deliveries. -/
lemma outcomes_of_inStep {I : τ → Prop} {E₁ : Engine τ} {E₂ : Engine σ} (h : Engine.InStep (fun c _ => I c) E₁ E₂)
    {check : Delivery → τ → Outcome × Session τ} (state : σ) {ds : List Delivery}
    (hcheck : ∀ d ∈ ds, ∀ c, check d c = E₁.answer c d.inquiry) {c : τ} (hc : I c) :
    (outcomes check ds c).1 = ds.map (row E₂ state) ∧ I (outcomes check ds c).2 := by
  induction ds generalizing c with
  | nil => exact ⟨rfl, hc⟩
  | cons d ds ih =>
    obtain ⟨hfirst, hothers⟩ := List.forall_mem_cons.mp hcheck
    obtain ⟨houtcome, hnext⟩ := h.answer_lockstep (b := state) hc d.inquiry
    rw [← hfirst, ← Delivery.checkCommand_eq] at houtcome
    rw [← hfirst] at hnext
    obtain ⟨hrest, hlast⟩ := ih hothers hnext
    exact ⟨congr (congrArg List.cons houtcome) hrest, hlast⟩

/-- A resolver whose answers depend on keys only is in step with itself, whatever the states. -/
lemma inStep_self {R : Resolver σ} {answers : (key : Query) → Answer key} (hR : R.AnswersByKey answers) (o : Options)
    (now : Nat) : Engine.InStep (fun _ _ => True) (⟨R, o, now⟩ : Engine σ) ⟨R, o, now⟩ :=
  ⟨⟨fun q _ _ _ => (hR q _).trans (hR q _).symm, fun _ _ _ _ => trivial⟩, rfl, rfl⟩

/-! ## Exit codes -/

/-- No exit code is above 3. -/
lemma exitCode_le (found : List Outcome) : exitCode found ≤ 3 := by
  rw [exitCode]
  split
  · exact Nat.le_refl 3
  · split
    · decide
    · decide

/-- One outcome more makes the exit code its own, if that is greater. -/
lemma exitCode_cons (outcome : Outcome) (found : List Outcome) :
    exitCode (outcome :: found) = max (exitCode [outcome]) (exitCode found) := by
  -- the exit codes from the greatest one down: of a problem, of a failure, of neither
  have hle := exitCode_le
  by_cases herror : outcome.verdict.isError = true
  · have hfirst : exitCode (outcome :: found) = 3 ∧ exitCode [outcome] = 3 := by simp [exitCode, herror]
    rw [hfirst.1, hfirst.2, Nat.max_eq_left (hle found)]
  · by_cases herrors : found.any (·.verdict.isError) = true
    · have hrest : exitCode (outcome :: found) = 3 ∧ exitCode found = 3 := by
        simp only [exitCode, List.any_cons, herrors, Bool.or_true, if_true, and_self]
      rw [hrest.1, hrest.2, Nat.max_eq_right (hle [outcome])]
    · by_cases hfails : outcome.verdict = .fail ∨ outcome.verdict = .softFail
      · have hfirst : exitCode (outcome :: found) = 2 ∧ exitCode [outcome] = 2 := by
          simp [exitCode, herror, herrors, hfails]
        have hrest : exitCode found ≤ 2 := by
          rw [exitCode, if_neg herrors]
          split
          · exact Nat.le_refl 2
          · exact Nat.zero_le 2
        rw [hfirst.1, hfirst.2, Nat.max_eq_left hrest]
      · have hfirst : exitCode [outcome] = 0 := by simp [exitCode, herror, hfails]
        have hrest : exitCode (outcome :: found) = exitCode found := by simp [exitCode, herror, hfails]
        rw [hfirst, hrest, Nat.zero_max]

/-- The exit code of outcomes is the greatest of their own. -/
lemma exitCode_eq (found : List Outcome) :
    exitCode found = (found.map fun outcome => exitCode [outcome]).foldr max 0 := by
  induction found with
  | nil => rfl
  | cons outcome found ih => rw [exitCode_cons, ih, List.map_cons, List.foldr_cons]

/-! ## Runs -/

namespace Arguments

variable (W : World σ) (a : Arguments) {o : Options} {R : Resolver σ} {answers : (key : Query) → Answer key}

/-- The run for one delivery, with all else as it is. -/
def single (d : Delivery) : Arguments :=
  { a with batch := false, command := some (.check d.sender d.address d.helo) }

/-- Answers are kept, and one that is kept at some time would expire at none that a clock can tell. -/
def Overruns (o : Options) (clock : Nat → Nat) : Prop :=
  a.cache = true ∧ ∃ n, Cache.timeLimit ≤ clock n + (cacheSettings o).ttl

/-- The run may be about deliveries: if they come from lines, their addresses have no blanks. -/
def Reads (ds : List Delivery) : Prop :=
  a.batch = true → ∀ d ∈ ds, ∀ c ∈ d.address, Text.isBlank c = false

/-- Whether it comes from a line or a command, a delivery is asked about in one way. -/
lemma checkDelivery_eq {ds : List Delivery} (hds : a.Reads ds) {d : Delivery} (hd : d ∈ ds) (E : Engine τ) (state : τ) :
    a.checkDelivery E d state = E.answer state d.inquiry := by
  rw [checkDelivery]
  split
  · next hbatch => exact d.checkLine_eq E (hds hbatch d hd) state
  · exact d.checkCommand_eq E state

/-- Deliveries have the outcomes that each of them has alone, whatever the state of the resolver then, with a cache or
without one. -/
lemma check_of_answersByKey (hR : R.AnswersByKey answers) {ds : List Delivery} (hds : a.Reads ds) (state : σ) :
    a.check W o R ds = some (ds.map (row ⟨R, o, W.now⟩ state)) ∨ a.check W o R ds = none ∧ a.Overruns o W.clock := by
  rw [check]
  by_cases hcache : a.cache = true
  · have hengines : Engine.InStep (fun c _ => c.Holds answers (cacheSettings o) W.clock)
        ⟨R.cached (cacheSettings o) W.clock, o, W.now⟩ ⟨R, o, W.now⟩ := ⟨Cache.inStep_of_holds hR, rfl, rfl⟩
    have hempty : (Cache.empty W.state).Holds answers (cacheSettings o) W.clock := ⟨nofun, nofun⟩
    obtain ⟨hfound, hlast⟩ := outcomes_of_inStep hengines state (fun d hd => a.checkDelivery_eq hds hd _) hempty
    rw [if_pos hcache]
    by_cases hover : (outcomes (a.checkDelivery ⟨R.cached (cacheSettings o) W.clock, o, W.now⟩) ds
        (.empty W.state)).2.hasOverrun = true
    · obtain ⟨n, -, htime⟩ := hlast.overrun hover
      exact .inr ⟨if_pos hover, hcache, n, htime⟩
    · exact .inl ((if_neg hover).trans (congrArg some hfound))
  · have hfound : (outcomes (a.checkDelivery ⟨R, o, W.now⟩) ds W.state).1 = ds.map (row ⟨R, o, W.now⟩ state) :=
      (outcomes_of_inStep (inStep_self hR o W.now) state (fun d hd => a.checkDelivery_eq hds hd _) trivial).1
    rw [if_neg hcache]
    exact .inl (congrArg some hfound)

/-- The checks of a run are reported as those of each delivery alone, or the clock is overrun. -/
lemma checkSenders_of_answersByKey (hR : R.AnswersByKey answers) (hresolver : W.resolver = .ok R) {ds : List Delivery}
    (hds : a.Reads ds) (state : σ) :
    a.checkSenders W o ⟨ds, none⟩ = a.conclude (ds.map (row ⟨R, o, W.now⟩ state)) ∨
      a.checkSenders W o ⟨ds, none⟩ = .overrun ∧ a.Overruns o W.clock := by
  rw [checkSenders, hresolver]
  rcases a.check_of_answersByKey W (o := o) hR hds state with hcheck | ⟨hcheck, hover⟩
  · exact .inl (by simp only [hcheck])
  · exact .inr ⟨by simp only [hcheck], hover⟩

/-- A run that is not about the text of a policy checks the deliveries of its input. -/
lemma run_eq (hcommand : ∀ record, a.command ≠ some (.parse record)) (hoptions : a.options W = .ok o) {b : Batch}
    (hbatchOf : a.batchOf? W = some b) : a.run W = a.checkSenders W o b := by
  rw [run]
  split
  · next record h => exact absurd h (hcommand record)
  · rw [hoptions, hbatchOf]

/-- The exit code of a report is the greatest that one of its outcomes alone has. -/
lemma exitCode_conclude {format : Format} (hformat : Format.ofText? Format.all a.format = some format)
    (found : List Outcome) :
    (a.conclude found).exitCode = (found.map fun outcome => (a.conclude [outcome]).exitCode).foldr max 0 := by
  have hcode : ∀ found, (a.conclude found).exitCode = exitCode found := by
    intro found
    rw [conclude, hformat]
    rfl
  simp only [hcode]
  exact exitCode_eq found

/-- Over a resolver whose answers depend on keys only, a run over the lines of a text reports what the runs for its
lines alone report, line by line, whatever the state of the resolver and the clock are in those. Its exit code is the
greatest of theirs. Only a run that keeps answers beyond the times that a clock can tell ends otherwise. -/
theorem run_batch (hR : R.AnswersByKey answers) (hresolver : W.resolver = .ok R) {t : Text}
    (hinput : W.input = Text.bytes t) (hbatch : a.batch = true) (hcommand : ∀ record, a.command ≠ some (.parse record))
    (hoptions : a.options W = .ok o) :
    let lines := (Text.pieces (· == '\n') t).filter fun line => !isSkipped line
    let deliveries := lines.map fun line => Delivery.ofFields (Text.words Text.isBlank line)
    let found := deliveries.map (row ⟨R, o, W.now⟩ W.state)
    (a.run W = a.conclude found ∨ a.run W = .overrun ∧ a.Overruns o W.clock) ∧
      (∀ d ∈ deliveries, ∀ state clock,
        let alone := (a.single d).run { W with state := state, clock := clock }
        alone = a.conclude [row ⟨R, o, W.now⟩ W.state d] ∨ alone = .overrun ∧ a.Overruns o clock) ∧
      ∀ format, Format.ofText? Format.all a.format = some format →
        (a.conclude found).exitCode = (found.map fun outcome => (a.conclude [outcome]).exitCode).foldr max 0 := by
  intro lines deliveries found
  refine ⟨?_, fun d _ state clock => ?_, fun format hformat => a.exitCode_conclude hformat found⟩
  · have hbatchOf : a.batchOf? W = some ⟨deliveries, none⟩ := by
      rw [batchOf?, if_pos hbatch, Batch.ofBytes, hinput, Text.ofBytes?_bytes]
      exact congrArg (fun ds => some (Batch.mk ds none)) (deliveriesOfText_eq t)
    have hreads : a.Reads deliveries := by
      intro _ d hd c hc
      obtain ⟨line, -, rfl⟩ := List.mem_map.mp hd
      exact Delivery.isBlank_of_mem_address (fun w hw c hc => Text.of_mem_words hw hc) hc
    rw [a.run_eq W hcommand hoptions hbatchOf]
    exact a.checkSenders_of_answersByKey W hR hresolver hreads W.state
  · have hreads : (a.single d).Reads [d] := nofun
    rw [(a.single d).run_eq { W with state := state, clock := clock } nofun hoptions rfl]
    exact (a.single d).checkSenders_of_answersByKey { W with state := state, clock := clock } hR hresolver hreads W.state

/-- Two senders of one domain, which spell it in two ways, and one without a domain. -/
def threeLines : Text :=
  "# senders\n\nu@A.example 192.0.2.1\n u@a.example.\t192.0.2.9 mail.example. \nlocalhost".toList

/-- The three are checked with one cache, at a time that stands still. -/
theorem run_batch_threeLines :
    let W : World Nat :=
      { input := Text.bytes threeLines
        file := fun _ => .error []
        resolver := .ok ⟨fun q sent => (Answer.ofKey (Checker.twoSpellings q.key), sent + 1)⟩
        state := 0
        clock := fun _ => 0
        now := 200 }
    let a : Arguments := { batch := true, cache := true, format := "csv".toList }
    let second : Delivery := ⟨"u@a.example.".toList, "192.0.2.9".toList, some "mail.example.".toList⟩
    ∃ found, a.run W = a.conclude found ∧ found.map (·.verdict) = [.pass, .fail, .invalid] ∧
      (∃ outcome ∈ found, (a.single second).run W = a.conclude [outcome]) ∧ (a.conclude found).exitCode = 3 := by
  intro W a second
  have hearly : ¬ Cache.timeLimit ≤ 0 + (cacheSettings {}).ttl := by decide +kernel
  have hclock : ¬ a.Overruns {} fun _ => 0 := fun ⟨_, _, htime⟩ => hearly htime
  obtain ⟨hrun, halone, hcode⟩ := run_batch W a (fun _ _ => rfl) rfl rfl rfl nofun rfl
  have hsecond : second ∈ (((Text.pieces (· == '\n') threeLines).filter fun line => !isSkipped line).map fun line =>
      Delivery.ofFields (Text.words Text.isBlank line)) := by decide +kernel
  refine ⟨_, hrun.resolve_right fun h => hclock h.2, by decide +kernel, ⟨_, List.mem_map_of_mem hsecond, ?_⟩, ?_⟩
  · exact (halone second hsecond 0 fun _ => 0).resolve_right fun h => hclock h.2
  · rw [hcode .csv rfl]
    decide +kernel

/-- If answers are to be kept for longer than any clock runs, a run for two lines reports nothing, though a run for the
first line alone, which asks for no answers, reports that its sender is malformed. -/
theorem run_batch_overrun :
    let W : World Unit :=
      { input := Text.bytes "localhost 1.1.1.1\na.com 1.1.1.1\n".toList
        file := fun _ => .ok "\x7b\"cache_ttl_secs\":18446744073709551615\x7d".toList
        resolver := .ok ⟨fun q state =>
          match q with
          | .txt _ => (.ok ["v=spf1 ip4:1.1.1.1 -all".toList], state)
          | _ => (.error .noSuchDomain, state)⟩
        state := ()
        clock := fun _ => 0
        now := 0 }
    let a : Arguments := { batch := true, cache := true, config := some "c.json".toList, format := "csv".toList }
    let header := "sender,domain,client_ip,helo,result,explanation,problem,dns_lookups,void_lookups\n"
    let localhost :=
      "localhost,localhost,1.1.1.1,,invalid,,domain localhost is not a valid FQDN: domain must contain at least one dot,0,0\n"
    a.run W = .overrun ∧
      (a.single ⟨"localhost".toList, "1.1.1.1".toList, none⟩).run W = .done 3 (.print (header.toList ++ localhost.toList)) := by
  decide +kernel

end Arguments

end CommandLine

end SenderPolicy

import PresentationVerifier.Proofs.Journey

/-!
# Batches of presented tokens

A response may present several tokens. Verifying them together comes to the same as verifying each in a
response of its own: the batch passes exactly when every token does, its results are theirs in order, and
its error is one of theirs.

Which error it is follows from the order of the work. A run takes all tokens through a stage before it
goes on to the next, so it meets the error of the token that is stopped at the earliest stage, and of
several tokens that are stopped at this stage, of the first.

Main results:

* `responses_foremost` — the error of a response is that of its foremost token.
* `records_alone` — the record of a response is made of the records of its tokens.
* `batch_decomposes` — both together: a batch and its tokens, each in a response of its own.
-/

namespace PresentationVerifier

/-- The response with other presented tokens, in the parameter and in the object it was read from. -/
def Response.presenting (r : Response) (tokens : List VpToken) : Response :=
  { r with raw := Parameter.vpToken.insert tokens r.raw, vpToken := some tokens }

namespace Run

variable {response : Response} {context : Context} {processing : ProcessConfig} {clock : Clock}

/-! ## A token alone -/

/-- How a run of the response ends: the stage that it has passed last, and the error that stopped it. -/
def responseFate (response : Response) (context : Context) (processing : ProcessConfig)
    (clock : Clock) : Fate :=
  ((advance (stages response context processing clock) .start).1.stage,
    (advance (stages response context processing clock) .start).2)

/-- The fate of one token among those of a response that passes the checks of the whole. -/
def tokenFate (context : Context) (processing : ProcessConfig) (clock : Clock) (s : Submission)
    (t : VpToken) : Fate :=
  match presentOne context t with
  | .error e => (.submissionPresent, some e)
  | .ok vp => journeyFate (soloStages context processing clock s) .tokensExtracted vp

/-- The checks of the response do not look at the tokens. -/
theorem responseChecks_presenting (tokens : List VpToken) :
    responseChecks (response.presenting tokens) context processing =
      responseChecks response context processing := rfl

/-- A single token that can be taken apart gives its presentation. -/
theorem present_singleton_ok {t : VpToken} {vp : Presentation}
    (h : presentOne context t = .ok vp) : ∃ opened, present context [t] = (opened, .ok [vp]) := by
  refine ⟨(present context [t]).1, Prod.ext rfl ?_⟩
  exact (present_eq_ok_iff context).mpr (.cons h .nil)

/-- A single token that cannot be taken apart gives its error. -/
theorem present_singleton_error {t : VpToken} {e : Error}
    (h : presentOne context t = .error e) : ∃ opened, present context [t] = (opened, .error e) := by
  refine ⟨(present context [t]).1, Prod.ext rfl ?_⟩
  rw [present_cons, h]

section Passed

variable {p : Progress} {s : Submission}
  (hChecks : advance (responseChecks response context processing) .start = (p, none))
  (hs : response.submission = some s)

include hChecks hs

/-- A token that is taken apart alone goes on with the solo stages alone. -/
theorem advance_stages_alone {t : VpToken} {vp : Presentation} (h : presentOne context t = .ok vp) :
    ∃ opened, advance (stages (response.presenting [t]) context processing clock) .start =
      advance ((soloStages context processing clock s).map SoloStage.onEach)
        ⟨.tokensExtracted, [vp], opened⟩ := by
  obtain ⟨opened, hPresent⟩ := present_singleton_ok h
  exact ⟨opened, advance_stages_presented hChecks hs rfl (by simp) hPresent⟩

/-- A response with one token has the fate of the token. -/
theorem responseFate_alone (t : VpToken) :
    responseFate (response.presenting [t]) context processing clock =
      tokenFate context processing clock s t := by
  rw [responseFate, tokenFate]
  cases h : presentOne context t with
  -- the token cannot be taken apart, and its response stops at the stage that tries
  | error e =>
    obtain ⟨opened, hPresent⟩ := present_singleton_error h
    have hStopped : advance (stages (response.presenting [t]) context processing clock) .start =
        (⟨.submissionPresent, [], opened⟩, some e) :=
      advance_stages_unpresentable hChecks hs rfl (by simp) hPresent
    rw [hStopped]
  -- it is taken apart, and the solo stages on one presentation are its journey
  | ok vp =>
    obtain ⟨opened, hAlone⟩ := advance_stages_alone hChecks hs h
    rw [hAlone]
    exact advance_onEach_single rfl

/-- The error of a response that passes the checks of the whole is that of its foremost token. -/
theorem tokens_foremost {tokens : List VpToken} (hv : response.vpToken = some tokens)
    (hNonempty : tokens ≠ []) {e : Error}
    (h : (advance (stages response context processing clock) .start).2 = some e) :
    ∃ i, Foremost (tokens.map (tokenFate context processing clock s)) i
      (advance (stages response context processing clock) .start).1.stage e := by
  have hOrder := soloStages_inOrder context processing clock s
  cases hPresent : present context tokens with
  | mk opened result =>
    cases result with
    | error e' =>
      -- the first token that cannot be taken apart is the foremost: all that can be get further
      rw [advance_stages_unpresentable hChecks hs hv hNonempty hPresent] at h ⊢
      obtain rfl : e' = e := by simpa using h
      refine foremost_of_findSome ((present_eq_error_iff context).mp (congrArg Prod.snd hPresent)) ?_ ?_
      -- a token that is stopped here has this stage as its fate
      · intro t e'' hStop
        cases hOne : presentOne context t <;> simp_all [presentError, tokenFate]
      · intro t hStop
        cases hOne : presentOne context t with
        | error e'' => simp [presentError, hOne] at hStop
        -- and any other is on its journey, which begins at a later stage
        | ok vp =>
          simp only [tokenFate, hOne]
          exact Nat.lt_of_lt_of_le
            (by decide : Stage.rank .submissionPresent < Stage.rank .tokensExtracted)
            (rank_le_journey hOrder vp)
    | ok vps =>
      -- every token is on its journey, so the fates are those of the journeys
      rw [advance_stages_presented hChecks hs hv hNonempty hPresent] at h ⊢
      have hEach := (present_eq_ok_iff context).mp (congrArg Prod.snd hPresent)
      have hSame : tokens.map (tokenFate context processing clock s) =
          vps.map (journeyFate (soloStages context processing clock s) .tokensExtracted) := by
        rw [← List.forall₂_eq_eq_eq, List.forall₂_map_left_iff, List.forall₂_map_right_iff]
        exact hEach.imp fun t vp hOne => by simp only [tokenFate, hOne]
      rw [hSame]
      exact advance_onEach_foremost hOrder h

end Passed

/-! ## All tokens -/

/-- The error of a response is that of its foremost token. -/
theorem responses_foremost {tokens : List VpToken} (hv : response.vpToken = some tokens)
    (hNonempty : tokens ≠ []) {e : Error}
    (h : (advance (stages response context processing clock) .start).2 = some e) :
    ∃ i, Foremost
      (tokens.map fun t => responseFate (response.presenting [t]) context processing clock) i
      (advance (stages response context processing clock) .start).1.stage e := by
  cases hChecks : advance (responseChecks response context processing) .start with
  | mk p e' =>
    cases e' with
    | none =>
      -- the checks of the response pass for each token alone too
      obtain ⟨-, -, ⟨s, hs⟩, -⟩ := responseChecks_passed hChecks
      rw [funext (responseFate_alone hChecks hs)]
      exact tokens_foremost hChecks hs hv hNonempty h
    | some e' =>
      -- the checks of the response stop every token, and the first token is the foremost
      have hAll : ∀ r,
          responseChecks r context processing = responseChecks response context processing →
          responseFate r context processing clock = (p.stage, some e') := by
        intro r hr
        rw [responseFate, advance_stages_stopped (hr ▸ hChecks)]
      rw [advance_stages_stopped hChecks] at h ⊢
      obtain rfl : e' = e := by simpa using h
      obtain ⟨t, rest, rfl⟩ := List.exists_cons_of_ne_nil hNonempty
      -- all fates are the same, so none is less than the first
      refine ⟨0, by simp [hAll _ (responseChecks_presenting [t])], ?_⟩
      intro j passed' e'' hj
      rw [List.getElem?_map] at hj
      obtain ⟨u, -, hu⟩ := Option.map_eq_some_iff.mp hj
      rw [hAll _ (responseChecks_presenting [u]), Prod.mk.injEq] at hu
      rw [Prod.Lex.toLex_le_toLex, hu.1]
      exact Or.inr ⟨rfl, Nat.zero_le j⟩

/-- A token of a response that nothing stopped is not stopped alone, and its record is what the response
has for it. -/
theorem process_alone {p : Progress} {s : Submission} {now : Int64}
    (hChecks : advance (responseChecks response context processing) .start = (p, none))
    (hs : response.submission = some s) {t : VpToken} {vp : Presentation}
    (hOne : presentOne context t = .ok vp)
    (hPassed : (journey (soloStages context processing (clockAt context now) s) .tokensExtracted
      vp).error = none) :
    ((Run.new (response.presenting [t]) context processing).process now).1 =
      .ok (Record.completed context.recordHeader (verdictOf processing.type) response.submission
        [(journey (soloStages context processing (clockAt context now) s) .tokensExtracted
          vp).presentation]) := by
  obtain ⟨opened, hAlone⟩ := advance_stages_alone hChecks hs hOne
  -- the journey is not stopped, so neither is the row on this presentation alone
  have hNone : (advance ((soloStages context processing (clockAt context now) s).map SoloStage.onEach)
      ⟨.tokensExtracted, [vp], opened⟩).2 = none := by
    rw [advance_onEach_none_iff]
    simpa using hPassed
  have hFst := advance_onEach_fst hNone
  rw [process_new_ok_iff]
  exact ⟨_, Prod.ext rfl (hAlone ▸ hNone), by rw [hAlone, hFst]; rfl⟩

/-- The records of a batch that passes: each token alone passes with what the batch has for it. -/
theorem records_alone {tokens : List VpToken} {now : Int64} {record : Record}
    (hv : response.vpToken = some tokens)
    (h : ((Run.new response context processing).process now).1 = .ok record) :
    ∃ records, List.Forall₂
        (fun t r => ((Run.new (response.presenting [t]) context processing).process now).1 = .ok r)
        tokens records ∧
      record.presentations = records.flatMap Record.presentations := by
  obtain ⟨p, hAdvance, rfl⟩ := process_new_ok_iff.mp h
  obtain ⟨-, -, s, tokens', vps, hs, hv', -, hEach, hPassed, hLeft⟩ := advance_stages_ok hAdvance
  obtain rfl : tokens = tokens' := by simpa [hv] using hv'
  -- the checks of the response do not stop a run that nothing stops
  obtain ⟨q, hChecks⟩ : ∃ q,
      advance (responseChecks response context processing) .start = (q, none) := by
    cases hChecks : advance (responseChecks response context processing) .start with
    | mk q e =>
      cases e with
      | none => exact ⟨q, rfl⟩
      | some e => simp [advance_stages_stopped hChecks] at hAdvance
  -- the record of each token has the presentation that its journey leaves
  refine ⟨vps.map fun vp => Record.completed context.recordHeader (verdictOf processing.type)
    response.submission
    [(journey (soloStages context processing (clockAt context now) s) .tokensExtracted
      vp).presentation], ?_, ?_⟩
  · rw [List.forall₂_map_right_iff, List.forall₂_iff_get]
    refine ⟨hEach.length_eq, fun i hi hi' => ?_⟩
    exact process_alone hChecks hs (hEach.get hi hi') (hPassed _ (List.get_mem _ _))
  · simp only [Record.completed, hLeft, List.map_map, List.flatMap_map, List.map_cons, List.map_nil]
    exact List.map_eq_flatMap

/-! ## Batches and their tokens -/

/-- Processes one token in a response of its own that is like the given one in all else. -/
def processAlone (response : Response) (context : Context) (processing : ProcessConfig) (now : Int64)
    (t : VpToken) : Except Error Record × Run :=
  (Run.new (response.presenting [t]) context processing).process now

/-- The same of a run that was processed, with its result. -/
def fateOf : Except Error Record × Run → Fate
  | (.ok _, r) => (r.progress.stage, none)
  | (.error e, r) => (r.progress.stage, some e)

/-- Both say the same of a run. -/
theorem fateOf_process (response : Response) (context : Context) (processing : ProcessConfig)
    (now : Int64) :
    fateOf ((Run.new response context processing).process now) =
      responseFate response context processing (clockAt context now) := by
  have hStage : ((Run.new response context processing).process now).2.progress =
      (advance (stages response context processing (clockAt context now)) .start).1 :=
    process_new_progress
  rw [responseFate, ← hStage]
  cases hProcess : (Run.new response context processing).process now with
  | mk result r =>
    cases result with
    -- a result that is an error has stopped the row
    | error e =>
      have hError := process_new_error_iff.mp (congrArg Prod.fst hProcess)
      rw [fateOf, hError]
    -- and a record means that nothing has
    | ok record =>
      obtain ⟨p, hAdvance, -⟩ := process_new_ok_iff.mp (congrArg Prod.fst hProcess)
      rw [fateOf, hAdvance]

/-- **Batches decompose**: a response passes exactly when each of its tokens passes in a response of its
own, and then its results are theirs in their order. Else its error is that of the token which is stopped
at the earliest stage, and of several such tokens that of the first. -/
theorem batch_decomposes (response : Response) (context : Context) (processing : ProcessConfig)
    (now : Int64) {tokens : List VpToken} (hv : response.vpToken = some tokens)
    (hNonempty : tokens ≠ []) :
    ((∃ record, ((Run.new response context processing).process now).1 = .ok record) ↔
      ∀ t ∈ tokens, ∃ record, (processAlone response context processing now t).1 = .ok record) ∧
    (∀ record, ((Run.new response context processing).process now).1 = .ok record →
      ∃ records,
        List.Forall₂ (fun t r => (processAlone response context processing now t).1 = .ok r)
          tokens records ∧
        record.presentations = records.flatMap Record.presentations) ∧
    (∀ e, ((Run.new response context processing).process now).1 = .error e →
      ∃ i, Foremost (tokens.map fun t => fateOf (processAlone response context processing now t)) i
        ((Run.new response context processing).process now).2.progress.stage e) := by
  have hFails : ∀ e, ((Run.new response context processing).process now).1 = .error e →
      ∃ i, Foremost (tokens.map fun t => fateOf (processAlone response context processing now t)) i
        ((Run.new response context processing).process now).2.progress.stage e := by
    intro e h
    have hAlone : (fun t => fateOf (processAlone response context processing now t)) =
        fun t => responseFate (response.presenting [t]) context processing (clockAt context now) :=
      funext fun t => fateOf_process _ _ _ _
    -- so it is the statement about fates
    rw [hAlone, process_new_progress]
    exact responses_foremost hv hNonempty (process_new_error_iff.mp h)
  refine ⟨⟨?_, ?_⟩, fun record h => records_alone hv h, hFails⟩
  · -- each token has a record among those that the batch is made of
    rintro ⟨record, h⟩ t ht
    obtain ⟨records, hEach, -⟩ := records_alone hv h
    obtain ⟨i, hi, rfl⟩ := List.getElem_of_mem ht
    exact ⟨_, hEach.get hi (hEach.length_eq ▸ hi)⟩
  · intro hAll
    cases h : ((Run.new response context processing).process now).1 with
    | ok record => exact ⟨record, rfl⟩
    | error e =>
      -- the foremost token does not pass alone
      obtain ⟨i, hStopped, -⟩ := hFails e h
      rw [List.getElem?_map] at hStopped
      obtain ⟨t, ht, hFate⟩ := Option.map_eq_some_iff.mp hStopped
      obtain ⟨record, hOk⟩ := hAll t (List.mem_of_getElem? ht)
      cases hProcess : processAlone response context processing now t with
      | mk result r =>
        rw [hProcess] at hOk hFate
        obtain rfl : result = .ok record := hOk
        simp [fateOf] at hFate

/-! ## A batch of two -/

/-- A context in which no key is found. -/
def keylessContext : Context where
  sessionId := ""
  callbackId := ""
  sequence := 1
  expectedState := none
  nonce := none
  resolver := { holderKey := fun _ => .error (.unresolved "unknown holder") }
  decrypter := none
  config := {}

/-- A token whose signature nobody can verify, and one that is no text. -/
def unequalTokens : List VpToken := [.text "e30.e30.~", .document []]

/-- The response that presents both. -/
def unequalResponse : Response where
  raw := []
  idToken := none
  vpToken := some unequalTokens
  submission := some ⟨"answer", "request", []⟩
  state := none
  error := none
  errorDescription := none
  errorUri := none

/-- The first token would be stopped when its signature is verified, so the second one comes before
it: it cannot even be taken apart. -/
theorem batch_decomposes_unequal :
    Foremost
      (unequalTokens.map fun t => fateOf (processAlone unequalResponse keylessContext {} 0 t)) 1
      .submissionPresent (.unsupported "object-based vp_token") := by
  have hFirst : fateOf (processAlone unequalResponse keylessContext {} 0 (.text "e30.e30.~")) =
      (.tokensExtracted, some (.failed .vpIntegrity "unable to resolve holder key")) := by
    decide +kernel
  obtain ⟨i, hStopped, hLeast⟩ :=
    (batch_decomposes unequalResponse keylessContext {} 0 rfl (List.cons_ne_nil _ _)).2.2
      (.unsupported "object-based vp_token") (by rfl)
  -- of the two positions only the second one has this stage
  match i with
  | 0 => simp [unequalTokens, hFirst] at hStopped
  | 1 => exact ⟨hStopped, hLeast⟩
  | _ + 2 => simp [unequalTokens] at hStopped

end Run

end PresentationVerifier

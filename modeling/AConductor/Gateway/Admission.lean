import AConductor.Gateway.Command

/-!
# The command gateway: what an admission means

An `ADMIT` of a mutating command stands on the evidence of all four authorities, and the
digest of an `ADMIT` is bound to every field of the request and to both scopes, whatever the
authorities answered or raised (`src/a_conductor/command_gateway.py:284-388`).
-/

namespace AConductor.Gateway

open Operator List Except

/-- The paths that a scope item denotes: the item itself, or, behind `/**`, everything below
    its prefix. -/
def Denotes (item path : PyStr) : Prop :=
  path = item ∨ ∃ dir rest, item = dir ++ .lit "/**" ∧ rest ≠ [] ∧ path = dir ++ .char '/' :: rest

theorem lit_slashes : PyStr.lit "/**" = [.char '/', .char '*', .char '*'] := rfl

theorem splitPoints_ne_nil (sep : CodePoint) (s : PyStr) : splitPoints sep s ≠ [] := by
  induction s with
  | nil => simp [splitPoints]
  | cons c s ih =>
    unfold splitPoints
    split
    · simp
    · split
      · simp
      · simp

theorem splitPoints_snoc (sep : CodePoint) (s : PyStr) :
    splitPoints sep (s ++ [sep]) = splitPoints sep s ++ [[]] := by
  induction s with
  | nil =>
    show splitPoints sep [sep] = _
    unfold splitPoints
    rw [if_pos rfl]
    rfl
  | cons c s ih =>
    rw [cons_append]
    unfold splitPoints
    rw [ih]
    split
    · rfl
    · cases hparts : splitPoints sep s with
      | nil => exact absurd hparts (splitPoints_ne_nil sep s)
      | cons part parts => rfl

theorem not_isSafe_snoc (s : PyStr) : isSafe (s ++ [.char '/']) = false := by
  rw [Bool.eq_false_iff]
  intro h
  unfold isSafe at h
  rw [Bool.and_eq_true] at h
  have hparts := h.2
  rw [map_append, map_singleton, if_neg (by decide), splitPoints_snoc,
    all_append, Bool.and_eq_true] at hparts
  exact absurd hparts.2 (by decide)

/-- A pattern behind `/**` covers the texts that go on behind its prefix. -/
theorem scopeCovers_cases {pattern item : PyStr} (h : scopeCovers (.str pattern) (.str item) = true) :
    pattern = item ∨ ∃ dir tail, pattern = dir ++ .lit "/**" ∧ item = dir ++ .char '/' :: tail := by
  unfold scopeCovers at h
  rw [Bool.and_eq_true, Bool.or_eq_true] at h
  rcases h.2 with heq | hprefix
  · exact .inl (of_decide_eq_true heq)
  · right
    rw [Bool.and_eq_true] at hprefix
    obtain ⟨⟨dir, hdir⟩, hstarts⟩ :=
      And.intro (isSuffixOf_iff_suffix.mp hprefix.1) (List.isPrefixOf_iff_prefix.mp hprefix.2)
    have htake : pattern.take (pattern.length - 2) = dir ++ [.char '/'] := by
      rw [← hdir, lit_slashes, length_append]
      have hsplit : dir ++ [CodePoint.char '/', .char '*', .char '*'] =
          (dir ++ [.char '/']) ++ [.char '*', .char '*'] := by simp
      rw [hsplit, take_left' (by simp)]
    rw [htake] at hstarts
    obtain ⟨tail, htail⟩ := hstarts
    exact ⟨dir, tail, hdir.symm, by rw [← htail]; simp⟩

/-- What an item denotes, a pattern that covers it denotes. -/
theorem denotes_of_covers {pattern item path : PyStr} (hsafe : isSafe item = true)
    (h : scopeCovers (.str pattern) (.str item) = true) (hpath : Denotes item path) :
    Denotes pattern path := by
  rcases scopeCovers_cases h with rfl | ⟨dir, tail, rfl, rfl⟩
  · exact hpath
  · right
    rcases hpath with rfl | ⟨dir', rest, hitem, hrest, rfl⟩
    · refine ⟨dir, tail, rfl, ?_, rfl⟩
      rintro rfl
      rw [not_isSafe_snoc] at hsafe
      cases hsafe
    · -- the item is a prefix again, below that of the pattern
      have hsplit : (dir ++ [.char '/']) ++ tail = (dir' ++ [.char '/']) ++ .lit "**" := by
        rw [append_assoc, append_assoc]
        exact hitem
      rcases append_eq_append_iff.mp hsplit with ⟨mid, hmid, -⟩ | ⟨mid, hmid, hstars⟩
      · refine ⟨dir, mid ++ rest, rfl, ?_, ?_⟩
        · exact fun hnil => hrest (append_eq_nil_iff.mp hnil).2
        · calc dir' ++ .char '/' :: rest = (dir' ++ [.char '/']) ++ rest := by simp
            _ = dir ++ .char '/' :: (mid ++ rest) := by rw [hmid]; simp
      · -- what the prefix of the pattern has more consists of stars, and it ends with a slash
        have hmem (c : CodePoint) (hc : c ∈ mid) : c = .char '*' := by
          have hc' : c ∈ PyStr.lit "**" := by
            rw [hstars]
            exact mem_append_left _ hc
          have hlit : PyStr.lit "**" = [.char '*', .char '*'] := rfl
          rw [hlit] at hc'
          simpa using hc'
        rcases eq_nil_or_concat mid with rfl | ⟨init, last, rfl⟩
        · refine ⟨dir, rest, rfl, hrest, ?_⟩
          rw [append_nil] at hmid
          rw [(append_inj' hmid rfl).1]
        · have hlast := hmem last (by simp)
          rw [concat_eq_append, ← append_assoc] at hmid
          have hends := singleton_inj.mp (append_inj' hmid rfl).2
          rw [hlast] at hends
          exact absurd hends (by decide)

variable {env : GatewayEnv} {r : GatewayCommandRequest} {auth : GatewayAuthorities} {value : Value}
  {shape : Shape}

theorem plainRef_eq (h : plainRef value = true) : ∃ s, value = .str s ∧ isPlain s = true := by
  cases value with
  | str s => exact ⟨s, rfl, h⟩
  | _ => cases h

theorem scopeItemSafe_eq (h : scopeItemSafe value = true) :
    ∃ s, value = .str s ∧ isSafe s = true := by
  cases value with
  | str s => exact ⟨s, rfl, h⟩
  | _ => cases h

theorem isSame_eq {a b : Value} (h : isSame a b = true) : a = b := by
  unfold isSame at h
  split at h
  · rw [of_decide_eq_true h]
  · cases h

/-- What `_validate_shape` established. -/
structure Shaped (r : GatewayCommandRequest) (shape : Shape) : Prop where
  request : r.request = some shape.inner
  action : shape.inner.action = some shape.action
  refs : ∀ value ∈ shape.inner.refs, optionalRef value = true
  numbers : ∀ value ∈ shape.inner.numbers, optionalNumber value = true
  identity : ∀ value ∈ r.identity, plainRef value = true
  requestedScope : r.requestedScope = some shape.scope
  scope : ∀ item ∈ shape.scope, scopeItemSafe item = true
  intent : shape.action ∈ mutateActions ↔ r.mutationIntent = .mutate
  mutateRefs : r.mutationIntent = .mutate → plainRef r.taskRef = true ∧ plainRef r.claimRef = true
  readRefs : r.mutationIntent ≠ .mutate →
    cleanText r.taskRef = true ∧ cleanText r.claimRef = true ∧ cleanText r.fenceRef = true

theorem not_not_all {α : Type} {p : α → Bool} {xs : List α} (h : ¬ (!xs.all p) = true) :
    ∀ x ∈ xs, p x = true := by
  rw [Bool.not_eq_true, Bool.not_eq_false'] at h
  exact all_eq_true.mp h

theorem validateShape_ok (h : validateShape r = .ok shape) : Shaped r shape := by
  unfold validateShape at h
  cases hrequest : r.request with
  | none =>
    rw [hrequest] at h
    cases h
  | some inner =>
    rw [hrequest] at h
    obtain ⟨_, -, h⟩ := bind_eq_ok.mp h
    cases haction : inner.action with
    | none =>
      rw [haction] at h
      cases h
    | some action =>
      rw [haction] at h
      simp only [bind_eq_ok, rejectIf_eq_ok] at h
      obtain ⟨_, hrefs, _, hnumbers, _, -, _, hidentity, h⟩ := h
      cases hscope : r.requestedScope with
      | none =>
        rw [hscope] at h
        cases h
      | some scope =>
        rw [hscope] at h
        simp only [bind_eq_ok, rejectIf_eq_ok] at h
        obtain ⟨_, hsafe, _, hintent, h⟩ := h
        have hagrees : action ∈ mutateActions ↔ r.mutationIntent = .mutate := by
          rw [not_not, decide_eq_decide] at hintent
          exact hintent
        have hshape (heq : shape = ⟨inner, action, scope⟩)
            (hmutate : r.mutationIntent = .mutate →
              plainRef r.taskRef = true ∧ plainRef r.claimRef = true)
            (hread : r.mutationIntent ≠ .mutate →
              cleanText r.taskRef = true ∧ cleanText r.claimRef = true ∧
                cleanText r.fenceRef = true) : Shaped r shape := by
          subst heq
          exact ⟨hrequest, haction, not_not_all hrefs, not_not_all hnumbers, not_not_all hidentity,
            hscope, not_not_all hsafe, hagrees, hmutate, hread⟩
        by_cases hmutate : r.mutationIntent = .mutate
        · rw [if_pos hmutate] at h
          obtain ⟨_, hplain, h⟩ := bind_eq_ok.mp h
          rw [rejectIf_eq_ok, Bool.or_eq_true, not_or, Bool.not_eq_true', Bool.not_eq_false,
            Bool.not_eq_true', Bool.not_eq_false] at hplain
          exact hshape (Except.ok.inj h).symm (fun _ => hplain) fun hne => absurd hmutate hne
        · rw [if_neg hmutate] at h
          obtain ⟨_, hclean, h⟩ := bind_eq_ok.mp h
          have hall := not_not_all (rejectIf_eq_ok.mp hclean)
          refine hshape (Except.ok.inj h).symm (fun heq => absurd heq hmutate) fun _ => ?_
          exact ⟨hall _ (by simp), hall _ (by simp), hall _ (by simp)⟩

theorem isSame_all {as bs : List Value} (hlen : as.length = bs.length)
    (h : (List.zipWith isSame as bs).all id = true) : as = bs := by
  induction as generalizing bs with
  | nil =>
    cases bs with
    | nil => rfl
    | cons b bs => cases hlen
  | cons a as ih =>
    cases bs with
    | nil => cases hlen
    | cons b bs =>
      rw [zipWith_cons_cons, all_cons, Bool.and_eq_true] at h
      rw [isSame_eq h.1, ih (Nat.succ.inj hlen) h.2]

/-- Every path that an item of the first scope denotes, an item of the second denotes. -/
def Within (scope leaseScope : List Value) : Prop :=
  ∀ value ∈ scope, ∃ item, value = .str item ∧ ∀ path, Denotes item path →
    ∃ pattern, Json.str pattern ∈ leaseScope ∧ Denotes pattern path

/-- A lease that is active for the task and the claim and holds the scope. -/
structure LeaseHolds (r : GatewayCommandRequest) (lease : LeaseEvidence)
    (scope leaseScope : List Value) : Prop where
  active : lease.active = .bool true
  taskRef : lease.taskRef = r.taskRef
  claimRef : lease.claimRef = r.claimRef
  items : asTuple lease.scope = .ok leaseScope
  within : Within scope leaseScope

theorem leaseStep_ok {scope leaseScope : List Value}
    (hscope : ∀ item ∈ scope, scopeItemSafe item = true)
    (h : leaseStep env r auth scope = .ok leaseScope) :
    (∀ item ∈ leaseScope, scopeItemSafe item = true) ∧
      ∃ lease, auth.validateLease r.claimRef r.taskRef scope = .ok (some lease) ∧
        LeaseHolds r lease scope leaseScope := by
  unfold leaseStep at h
  cases hlease : auth.validateLease r.claimRef r.taskRef scope with
  | error =>
    rw [hlease] at h
    cases h
  | ok answer =>
    cases answer with
    | none =>
      rw [hlease] at h
      cases h
    | some lease =>
      rw [hlease] at h
      obtain ⟨_, -, h⟩ := bind_eq_ok.mp h
      cases htuple : asTuple lease.scope with
      | error =>
        rw [htuple] at h
        cases h
      | ok items =>
        rw [htuple] at h
        dsimp only at h
        split at h
        · rename_i hactive
          simp only [bind_eq_ok, rejectIf_eq_ok] at h
          obtain ⟨_, hrefs, _, hsafe, _, hcovers, h⟩ := h
          cases Except.ok.inj h
          rw [Bool.or_eq_true, not_or, Bool.not_eq_true', Bool.not_eq_false, Bool.not_eq_true',
            Bool.not_eq_false] at hrefs
          refine ⟨not_not_all hsafe, lease, rfl, hactive, isSame_eq hrefs.1, isSame_eq hrefs.2,
            htuple, ?_⟩
          intro value hvalue
          obtain ⟨item, rfl, hitem⟩ := scopeItemSafe_eq (hscope value hvalue)
          refine ⟨item, rfl, fun path hpath => ?_⟩
          obtain ⟨pattern, hpattern, hcover⟩ := any_eq_true.mp (not_not_all hcovers _ hvalue)
          obtain ⟨text, rfl, -⟩ := scopeItemSafe_eq (not_not_all hsafe pattern hpattern)
          exact ⟨text, hpattern, denotes_of_covers hitem hcover hpath⟩
        · cases h

theorem worktreeStep_ok (h : worktreeStep r auth = .ok ()) :
    ∃ identity, auth.observeWorktree r.repoRoot = .ok (some identity) ∧
      identityFields.map (getKey identity) = r.identity := by
  unfold worktreeStep at h
  split at h
  · cases h
  · cases h
  · rename_i identity hobserve
    obtain ⟨_, -, h⟩ := bind_eq_ok.mp h
    refine ⟨identity, hobserve, isSame_all rfl ?_⟩
    rw [rejectIf_eq_ok, Bool.not_eq_true', Bool.not_eq_false] at h
    exact h

theorem dedupeStep_ok (h : dedupeStep r auth = .ok ()) :
    auth.dedupeDecision r.taskRef = .ok (some .safeToLaunch) := by
  unfold dedupeStep at h
  split at h
  · cases h
  · assumption
  · cases h

theorem fenceStep_ok (h : fenceStep r auth = .ok ()) :
    plainRef r.fenceRef = true ∧
      auth.fenceStatus r.fenceRef = .ok (.status .fenceHeldHere) := by
  unfold fenceStep at h
  obtain ⟨_, hplain, h⟩ := bind_eq_ok.mp h
  rw [rejectIf_eq_ok, Bool.not_eq_true', Bool.not_eq_false] at hplain
  refine ⟨hplain, ?_⟩
  split at h
  · cases h
  · cases h
  · assumption
  · cases h

/-- What an admission of a mutating command stands on. -/
structure MutateAdmitted (r : GatewayCommandRequest) (auth : GatewayAuthorities) : Prop where
  intent : r.mutationIntent = .mutate
  lease : ∃ scope lease leaseScope, r.requestedScope = some scope ∧
    auth.validateLease r.claimRef r.taskRef scope = .ok (some lease) ∧
    LeaseHolds r lease scope leaseScope
  identity : ∃ identity, auth.observeWorktree r.repoRoot = .ok (some identity) ∧
    identityFields.map (getKey identity) = r.identity
  dedupe : auth.dedupeDecision r.taskRef = .ok (some .safeToLaunch)
  fence : auth.fenceStatus r.fenceRef = .ok (.status .fenceHeldHere)

/-- The scope of the lease that the digest is bound to: a command that only reads has none. -/
def boundLeaseScope (r : GatewayCommandRequest) (auth : GatewayAuthorities) : List Value :=
  if r.mutationIntent = .mutate then
    match auth.validateLease r.claimRef r.taskRef (r.requestedScope.getD []) with
    | .ok (some lease) => (asTuple lease.scope).toOption.getD []
    | _ => []
  else []

theorem authoritySteps_ok {leaseScope : List Value} (hshape : Shaped r shape)
    (hintent : r.mutationIntent = .mutate)
    (h : authoritySteps env r auth shape.scope = .ok leaseScope) :
    MutateAdmitted r auth ∧ leaseScope = boundLeaseScope r auth ∧
      (∀ item ∈ leaseScope, scopeItemSafe item = true) ∧ plainRef r.fenceRef = true := by
  unfold authoritySteps at h
  simp only [bind_eq_ok] at h
  obtain ⟨found, hlease, _, hworktree, _, hdedupe, _, hfence, h⟩ := h
  cases Except.ok.inj h
  obtain ⟨hsafe, lease, hvalidate, hholds⟩ := leaseStep_ok hshape.scope hlease
  obtain ⟨hplain, hheld⟩ := fenceStep_ok hfence
  refine ⟨⟨hintent, ⟨_, _, _, hshape.requestedScope, hvalidate, hholds⟩, worktreeStep_ok hworktree,
    dedupeStep_ok hdedupe, hheld⟩, ?_, hsafe, hplain⟩
  unfold boundLeaseScope
  rw [if_pos hintent, hshape.requestedScope, Option.getD_some, hvalidate]
  dsimp only
  rw [hholds.items]
  rfl

/-- Whenever a step stops, it denies the request. -/
def Denies {α : Type} (r : GatewayCommandRequest) (step : Step α) : Prop :=
  ∀ denied, step = .error denied → ∃ code, denied = deny r code

theorem denies_ok {α : Type} (a : α) : Denies r (.ok a) := nofun

theorem denies_error {α : Type} (code : String) : Denies (α := α) r (.error (deny r code)) := by
  intro denied h
  exact ⟨code, (Except.error.inj h).symm⟩

theorem denies_rejectIf {p : Prop} [Decidable p] (code : String) :
    Denies r (rejectIf p (deny r code)) := by
  by_cases hp : p
  · rw [rejectIf_pos hp]
    exact denies_error code
  · rw [rejectIf_neg hp]
    exact denies_ok ()

theorem Denies.bind {α β : Type} {step : Step α} {next : α → Step β} (hstep : Denies r step)
    (hnext : ∀ a, Denies r (next a)) : Denies r (step >>= next) := by
  intro denied h
  cases step with
  | error e => exact hstep denied (congrArg Except.error (Except.error.inj h))
  | ok a => exact hnext a denied h

theorem denies_leaseStep (scope : List Value) : Denies r (leaseStep env r auth scope) := by
  unfold leaseStep
  dsimp only
  split
  · exact denies_error _
  · exact denies_error _
  · refine (denies_rejectIf _).bind fun _ => ?_
    split
    · exact denies_error _
    · split
      · refine (denies_rejectIf _).bind fun _ => (denies_rejectIf _).bind fun _ =>
          (denies_rejectIf _).bind fun _ => denies_ok _
      · exact denies_error _

theorem denies_authoritySteps (scope : List Value) : Denies r (authoritySteps env r auth scope) := by
  have hworktree : Denies r (worktreeStep r auth) := by
    unfold worktreeStep
    split
    · exact denies_error _
    · exact denies_error _
    · exact (denies_rejectIf _).bind fun _ => denies_rejectIf _
  have hdedupe : Denies r (dedupeStep r auth) := by
    unfold dedupeStep
    split
    · exact denies_error _
    · exact denies_ok _
    · exact denies_error _
  have hfence : Denies r (fenceStep r auth) := by
    unfold fenceStep
    refine (denies_rejectIf _).bind fun _ => ?_
    split
    · exact denies_error _
    · exact denies_error _
    · exact denies_ok _
    · exact denies_error _
  exact (denies_leaseStep scope).bind fun _ => hworktree.bind fun _ => hdedupe.bind fun _ =>
    hfence.bind fun _ => denies_ok _

/-- The action of a request, if it has one. -/
def GatewayCommandRequest.action (r : GatewayCommandRequest) : Option OperatorAction :=
  r.request.bind OperatorObject.action

def MutationIntent.label : MutationIntent → String
  | .mutate => "MUTATE"
  | _ => "READ_ONLY"

/-- The values that the digest of an admission is taken of. -/
def boundParts (r : GatewayCommandRequest) (auth : GatewayAuthorities) (shape : Shape) : List Value :=
  evidenceParts r shape r.mutationIntent.label (r.mutationIntent = .mutate) (boundLeaseScope r auth)

/-- The text whose digest an `ADMIT` carries. -/
def hashedText (r : GatewayCommandRequest) (auth : GatewayAuthorities) : PyStr :=
  match validateShape r with
  | .ok shape => evidenceText (boundParts r auth shape)
  | .error _ => []

/-- What every `ADMIT` carries. -/
structure Admitted (env : GatewayEnv) (r : GatewayCommandRequest) (auth : GatewayAuthorities)
    (outcome : GatewayAdmission) (shape : Shape) : Prop where
  shaped : Shaped r shape
  known : r.mutationIntent = .mutate ∨ r.mutationIntent = .readOnly
  evidence : r.mutationIntent = .mutate → MutateAdmitted r auth ∧ plainRef r.fenceRef = true
  leaseScope : ∀ item ∈ boundLeaseScope r auth, scopeItemSafe item = true
  text : hashedText r auth = evidenceText (boundParts r auth shape)
  digest : outcome.evidenceDigest = env.sha256 (hashedText r auth)

theorem mem_readOnlyActions (action : OperatorAction) :
    action ∈ readOnlyActions ↔ action ∉ mutateActions := by
  cases action <;> decide

theorem evidenceDigest_ok {fenceOk : Bool} {leaseScope : List Value} {digest : String}
    (h : evidenceDigest env r shape fenceOk leaseScope = .ok digest) :
    (r.mutationIntent = .mutate ∨ r.mutationIntent = .readOnly) ∧
      digest = env.sha256
        (evidenceText (evidenceParts r shape r.mutationIntent.label fenceOk leaseScope)) := by
  unfold evidenceDigest at h
  simp only [bind_eq_ok] at h
  obtain ⟨intent, hintent, _, -, h⟩ := h
  cases hkind : r.mutationIntent with
  | readOnly =>
    rw [hkind] at hintent
    cases hintent
    exact ⟨.inr rfl, (Except.ok.inj h).symm⟩
  | mutate =>
    rw [hkind] at hintent
    cases hintent
    exact ⟨.inl rfl, (Except.ok.inj h).symm⟩
  | other contained =>
    rw [hkind] at hintent
    cases hintent

theorem admitInner_ok {outcome : GatewayAdmission} (h : admitInner env r auth = .ok outcome)
    (hdecided : outcome.decision = .admitted) : ∃ shape, Admitted env r auth outcome shape := by
  unfold admitInner at h
  obtain ⟨shape, hvalid, h⟩ := bind_eq_ok.mp h
  have hshaped := validateShape_ok hvalid
  have htext : hashedText r auth = evidenceText (boundParts r auth shape) := by
    unfold hashedText
    rw [hvalid]
  refine ⟨shape, ?_⟩
  by_cases hread : shape.action ∈ readOnlyActions
  · have hintent : r.mutationIntent ≠ .mutate := fun heq =>
      (mem_readOnlyActions _).mp hread (hshaped.intent.mpr heq)
    rw [if_pos hread] at h
    obtain ⟨digest, hdigest, h⟩ := bind_eq_ok.mp h
    cases Except.ok.inj h
    obtain ⟨hknown, hdigest⟩ := evidenceDigest_ok hdigest
    have hnone : boundLeaseScope r auth = [] := if_neg hintent
    refine ⟨hshaped, hknown, fun heq => absurd heq hintent, ?_, htext, ?_⟩
    · rw [hnone]
      nofun
    · rw [htext]
      unfold boundParts
      rw [hnone, decide_eq_false hintent]
      exact hdigest
  · have hintent : r.mutationIntent = .mutate := by
      rw [mem_readOnlyActions, not_not] at hread
      exact hshaped.intent.mp hread
    rw [if_neg hread] at h
    cases hsteps : authoritySteps env r auth shape.scope with
    | error denied =>
      rw [hsteps] at h
      cases Except.ok.inj h
      obtain ⟨code, rfl⟩ := denies_authoritySteps shape.scope outcome hsteps
      cases hdecided
    | ok leaseScope =>
      rw [hsteps] at h
      obtain ⟨digest, hdigest, h⟩ := bind_eq_ok.mp h
      cases Except.ok.inj h
      obtain ⟨hevidence, rfl, hsafe, hfence⟩ := authoritySteps_ok hshaped hintent hsteps
      obtain ⟨hknown, hdigest⟩ := evidenceDigest_ok hdigest
      refine ⟨hshaped, hknown, fun _ => ⟨hevidence, hfence⟩, hsafe, htext, ?_⟩
      rw [htext]
      unfold boundParts
      rw [decide_eq_true hintent]
      exact hdigest

abbrev Clean (value : Value) : Prop := Json.Readable Json.IsInt value

theorem clean_str {s : PyStr} (h : isPlain s = true) : Clean (.str s) := by
  unfold isPlain at h
  simp only [Bool.and_eq_true, all_eq_true] at h
  show s.all CodePoint.isChar = true
  rw [all_eq_true]
  exact fun c hc => (h.2 c hc).2

theorem clean_lit (s : String) : Clean (.str (.lit s)) := PyStr.all_isChar_lit s

theorem clean_plainRef (h : plainRef value = true) : Clean value := by
  obtain ⟨s, rfl, hs⟩ := plainRef_eq h
  exact clean_str hs

theorem clean_cleanText (h : cleanText value = true) : Clean value := by
  cases value with
  | str s =>
    rcases (Bool.or_eq_true _ _).mp h with hnil | hs
    · rw [of_decide_eq_true hnil]
      rfl
    · exact clean_str hs
  | _ => cases h

theorem clean_optionalRef (h : optionalRef value = true) : Clean value := by
  cases value with
  | null => trivial
  | str s => exact clean_str h
  | _ => cases h

theorem clean_optionalNumber (h : optionalNumber value = true) : Clean value := by
  cases value with
  | null => trivial
  | num n =>
    cases n with
    | int i => exact ⟨i, rfl⟩
    | float _ => cases h
  | _ => cases h

/-- The texts of a scope are its items, in another order. -/
theorem sortedTexts_perm {items : List Value} (h : ∀ item ∈ items, scopeItemSafe item = true) :
    List.Perm (sortedTexts items) items := by
  have hmap : (items.map textOf).map Json.str = items := by
    rw [map_map]
    refine (map_congr_left fun item hitem => ?_).trans (map_id items)
    obtain ⟨s, rfl, -⟩ := scopeItemSafe_eq (h item hitem)
    rfl
  have hperm : List.Perm (sortedTexts items) ((items.map textOf).map Json.str) :=
    (perm_insertionSort PyStr.Le (items.map textOf)).map Json.str
  rw [hmap] at hperm
  exact hperm

theorem clean_sortedTexts {items : List Value} (h : ∀ item ∈ items, scopeItemSafe item = true) :
    Clean (.arr (sortedTexts items)) := by
  refine Json.readableItems_iff.mpr fun item hitem => ?_
  obtain ⟨s, rfl, hs⟩ := scopeItemSafe_eq (h item ((sortedTexts_perm h).mem_iff.mp hitem))
  unfold isSafe at hs
  simp only [Bool.and_eq_true] at hs
  exact clean_str hs.1.1.1.1

variable {shape : Shape} {outcome : GatewayAdmission}

theorem Admitted.clean (h : Admitted env r auth outcome shape) :
    Clean (.arr (boundParts r auth shape)) := by
  have hrefs : ∀ value ∈ [r.taskRef, r.claimRef, r.fenceRef], Clean value := by
    by_cases hintent : r.mutationIntent = .mutate
    · obtain ⟨htask, hclaim⟩ := h.shaped.mutateRefs hintent
      have hfence := (h.evidence hintent).2
      intro value hvalue
      simp only [mem_cons, not_mem_nil, or_false] at hvalue
      rcases hvalue with rfl | rfl | rfl
      · exact clean_plainRef htask
      · exact clean_plainRef hclaim
      · exact clean_plainRef hfence
    · obtain ⟨htask, hclaim, hfence⟩ := h.shaped.readRefs hintent
      intro value hvalue
      simp only [mem_cons, not_mem_nil, or_false] at hvalue
      rcases hvalue with rfl | rfl | rfl
      · exact clean_cleanText htask
      · exact clean_cleanText hclaim
      · exact clean_cleanText hfence
  refine Json.readableItems_iff.mpr fun value hvalue => ?_
  unfold boundParts evidenceParts at hvalue
  simp only [mem_append] at hvalue
  rcases hvalue with (((((hhead | hidentity) | href) | hobject) | hnumber) | htail)
  · simp only [mem_cons, not_mem_nil, or_false] at hhead
    rcases hhead with rfl | rfl | rfl <;> exact clean_lit _
  · exact clean_plainRef (h.shaped.identity value hidentity)
  · exact hrefs value href
  · exact clean_optionalRef (h.shaped.refs value hobject)
  · exact clean_optionalNumber (h.shaped.numbers value hnumber)
  · simp only [mem_cons, not_mem_nil, or_false] at htail
    rcases htail with rfl | rfl | rfl
    · exact clean_sortedTexts h.shaped.scope
    · exact clean_sortedTexts h.leaseScope
    · exact clean_lit _

/-- Two admissions of one digest text are about the same values. -/
theorem evidenceText_injective {parts parts' : List Value} (hparts : Clean (.arr parts))
    (hparts' : Clean (.arr parts')) (h : evidenceText parts = evidenceText parts') :
    parts = parts' := by
  have hbom : (evidenceText parts).head? ≠ some (.char '\ufeff') := by
    intro hhead
    have hbracket : some (CodePoint.char '[') = some (.char '\ufeff') := hhead
    exact absurd hbracket (by decide)
  have heq := Json.eq_of_dumps (fun _ => rfl) hparts hparts' hbom h
  injection heq

/-- What two commands have in common: the action, the intent, every field of the identity, every
    reference and number, and, as multisets, both scopes. -/
structure Agree (r r' : GatewayCommandRequest) (auth auth' : GatewayAuthorities) : Prop where
  action : r.action = r'.action
  mutationIntent : r.mutationIntent = r'.mutationIntent
  identity : r.identity = r'.identity
  taskRef : r.taskRef = r'.taskRef
  claimRef : r.claimRef = r'.claimRef
  fenceRef : r.fenceRef = r'.fenceRef
  refs : r.request.map OperatorObject.refs = r'.request.map OperatorObject.refs
  numbers : r.request.map OperatorObject.numbers = r'.request.map OperatorObject.numbers
  requestedScope : List.Perm (r.requestedScope.getD []) (r'.requestedScope.getD [])
  leaseScope : List.Perm (boundLeaseScope r auth) (boundLeaseScope r' auth')

theorem value_injective : Function.Injective OperatorAction.value := by
  intro a b h
  cases a <;> cases b <;> first | rfl | exact absurd h (by decide)

/-- The parts of two admissions are the same values only where the commands agree. -/
theorem agree_of_parts {r' : GatewayCommandRequest} {auth' : GatewayAuthorities} {shape' : Shape}
    {outcome' : GatewayAdmission} (h : Admitted env r auth outcome shape)
    (h' : Admitted env r' auth' outcome' shape')
    (hparts : boundParts r auth shape = boundParts r' auth' shape') : Agree r r' auth auth' := by
  unfold boundParts evidenceParts at hparts
  obtain ⟨hrest, htail⟩ := append_inj' hparts rfl
  obtain ⟨hrest, hnumbers⟩ := append_inj' hrest rfl
  obtain ⟨hrest, hobject⟩ := append_inj' hrest rfl
  obtain ⟨hrest, hrefs⟩ := append_inj' hrest rfl
  obtain ⟨hhead, hidentity⟩ := append_inj' hrest rfl
  simp only [List.cons.injEq, and_true, Json.str.injEq, Json.arr.injEq, true_and] at hhead hrefs htail
  obtain ⟨haction, hlabel⟩ := hhead
  obtain ⟨htask, hclaim, hfence⟩ := hrefs
  obtain ⟨hscope, hlease, -⟩ := htail
  have hlabels : r.mutationIntent.label = r'.mutationIntent.label := PyStr.lit_injective hlabel
  constructor
  · show r.request.bind _ = r'.request.bind _
    rw [h.shaped.request, h'.shaped.request, Option.bind_some, Option.bind_some, h.shaped.action,
      h'.shaped.action, value_injective (PyStr.lit_injective haction)]
  · rcases h.known with hk | hk <;> rcases h'.known with hk' | hk' <;> rw [hk, hk'] at hlabels ⊢
    · exact absurd hlabels (by decide)
    · exact absurd hlabels (by decide)
  · exact hidentity
  · exact htask
  · exact hclaim
  · exact hfence
  · rw [h.shaped.request, h'.shaped.request, Option.map_some, Option.map_some, hobject]
  · rw [h.shaped.request, h'.shaped.request, Option.map_some, Option.map_some, hnumbers]
  · rw [h.shaped.requestedScope, h'.shaped.requestedScope, Option.getD_some, Option.getD_some]
    have hperm := (sortedTexts_perm h.shaped.scope).symm
    rw [hscope] at hperm
    exact hperm.trans (sortedTexts_perm h'.shaped.scope)
  · have hperm := (sortedTexts_perm h.leaseScope).symm
    rw [hlease] at hperm
    exact hperm.trans (sortedTexts_perm h'.leaseScope)

/-- `admit_command` never raises. -/
theorem admitCommand_total (env : GatewayEnv) (r : GatewayCommandRequest)
    (auth : GatewayAuthorities) : ∃ outcome, admitCommand env r auth = .ok outcome := by
  unfold admitCommand
  split
  · exact ⟨_, rfl⟩
  · exact ⟨_, rfl⟩
  · exact ⟨_, rfl⟩

theorem admitCommand_admit (h : admitCommand env r auth = .ok outcome)
    (hdecided : outcome.decision = .admitted) : ∃ shape, Admitted env r auth outcome shape := by
  unfold admitCommand at h
  split at h
  · rename_i found hinner
    cases Except.ok.inj h
    exact admitInner_ok hinner hdecided
  · cases Except.ok.inj h
    cases hdecided
  · cases Except.ok.inj h
    cases hdecided

/-- The gateway always decides. An `ADMIT` of a mutating command stands on the evidence of all
    four authorities, and two `ADMIT`s of one digest are about commands that agree. -/
theorem command_admission_sound (env : GatewayEnv) (r : GatewayCommandRequest)
    (auth : GatewayAuthorities) :
    (∃ outcome, admitCommand env r auth = .ok outcome) ∧
    ∀ outcome, admitCommand env r auth = .ok outcome → outcome.decision = .admitted →
      (∀ action ∈ mutateActions, r.action = some action → MutateAdmitted r auth) ∧
      ∀ r' auth' outcome', admitCommand env r' auth' = .ok outcome' → outcome'.decision = .admitted →
        Set.InjOn env.sha256 {hashedText r auth, hashedText r' auth'} →
        outcome.evidenceDigest = outcome'.evidenceDigest → Agree r r' auth auth' := by
  refine ⟨admitCommand_total env r auth, fun outcome h hdecided => ?_⟩
  obtain ⟨shape, hadmitted⟩ := admitCommand_admit h hdecided
  constructor
  · intro action hmutates haction
    have hsame : shape.action = action := by
      unfold GatewayCommandRequest.action at haction
      rw [hadmitted.shaped.request, Option.bind_some, hadmitted.shaped.action] at haction
      exact Option.some.inj haction
    exact (hadmitted.evidence (hadmitted.shaped.intent.mp (hsame ▸ hmutates))).1
  · intro r' auth' outcome' h' hdecided' hinj hdigest
    obtain ⟨shape', hadmitted'⟩ := admitCommand_admit h' hdecided'
    rw [hadmitted.digest, hadmitted'.digest] at hdigest
    have htext := hinj (by simp) (by simp) hdigest
    rw [hadmitted.text, hadmitted'.text] at htext
    exact agree_of_parts hadmitted hadmitted'
      (evidenceText_injective hadmitted.clean hadmitted'.clean htext)

def sampleText : String :=
  "[\"operator.v1\",\"job.ready\",\"MUTATE\",\"/r\",\"/r/w\",\"main\",\"f00d\",\"T1\",\"C1" ++
    "\",\"F1\",\"J1\",null,null,null,null,null,null,4,null,[\"src/a/**\",\"src/b.py\"],[\"src/**\"],\"fence\"]"

def sampleEnv : GatewayEnv where
  maxDigits := some 4300
  sha256 text :=
    if text = .lit sampleText then
      "4eddaaa62d01fa453ace536843e3d2c5cb7d72ccc80c9a7ef130115e713a9787"
    else ""

def sampleObject : OperatorObject where
  protocolVersion := .str (.lit "operator.v1")
  action := some .jobReady
  jobId := .str (.lit "J1")
  operationRef := .null
  evidenceRef := .null
  checkpointRef := .null
  workOrderRef := .null
  projectId := .null
  workerId := .null
  expectedVersion := .num (.int 4)
  maxAttempts := .null

/-- A request for a scope of two items, in the order given. -/
def sampleRequest (scope : List String) : GatewayCommandRequest where
  request := some sampleObject
  repoRoot := .str (.lit "/r")
  worktree := .str (.lit "/r/w")
  branch := .str (.lit "main")
  headSha := .str (.lit "f00d")
  mutationIntent := .mutate
  taskRef := .str (.lit "T1")
  claimRef := .str (.lit "C1")
  fenceRef := .str (.lit "F1")
  requestedScope := some (scope.map fun item => .str (.lit item))

def sampleAuthorities : GatewayAuthorities where
  validateLease claim task _ := .ok (some ⟨task, claim, .arr [.str (.lit "src/**")], .bool true⟩)
  dedupeDecision _ := .ok (some .safeToLaunch)
  observeWorktree root := .ok (some
    [(.lit "repo_root", root), (.lit "worktree", .str (.lit "/r/w")),
      (.lit "branch", .str (.lit "main")), (.lit "head_sha", .str (.lit "f00d"))])
  fenceStatus _ := .ok (.status .fenceHeldHere)

/-- The order of the requested items does not matter to the digest. -/
theorem command_admission_sound_sample :
    MutateAdmitted (sampleRequest ["src/a/**", "src/b.py"]) sampleAuthorities ∧
      Agree (sampleRequest ["src/a/**", "src/b.py"]) (sampleRequest ["src/b.py", "src/a/**"])
        sampleAuthorities sampleAuthorities := by
  have htext : hashedText (sampleRequest ["src/a/**", "src/b.py"]) sampleAuthorities =
      hashedText (sampleRequest ["src/b.py", "src/a/**"]) sampleAuthorities := by
    decide +kernel
  have hadmits {r : GatewayCommandRequest}
      (h : (admitCommand sampleEnv r sampleAuthorities).toOption.map
        GatewayAdmission.decision = some .admitted) :
      ∃ outcome shape, admitCommand sampleEnv r sampleAuthorities = .ok outcome ∧
        outcome.decision = .admitted ∧ Admitted sampleEnv r sampleAuthorities outcome shape := by
    obtain ⟨outcome, hok⟩ := admitCommand_total sampleEnv r sampleAuthorities
    rw [hok] at h
    have hdecided : outcome.decision = .admitted := Option.some.inj h
    obtain ⟨shape, hadmitted⟩ := admitCommand_admit hok hdecided
    exact ⟨outcome, shape, hok, hdecided, hadmitted⟩
  obtain ⟨outcome, shape, hok, hdecided, hadmitted⟩ :=
    @hadmits (sampleRequest ["src/a/**", "src/b.py"]) (by decide +kernel)
  obtain ⟨outcome', shape', hok', hdecided', hadmitted'⟩ :=
    @hadmits (sampleRequest ["src/b.py", "src/a/**"]) (by decide +kernel)
  obtain ⟨hevidence, hagree⟩ := (command_admission_sound sampleEnv _ _).2 outcome hok hdecided
  refine ⟨hevidence .jobReady (by decide) rfl, hagree _ _ outcome' hok' hdecided' ?_ ?_⟩
  · rw [htext, Set.pair_eq_singleton]
    exact Set.injOn_singleton _ _
  · rw [hadmitted.digest, hadmitted'.digest, htext]

end AConductor.Gateway

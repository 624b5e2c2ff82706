/-
  **Which token a login leaves in the cache.**  A step that validates a token of the identity
  provider builds a user token from it.  If the step also ends the session, that token is
  cached; if the session goes on (a TOTP code, a PIN to set up), what is cached at its end is
  the token that the session began with.
-/
import Himmelblau.DaemonViews

namespace Himmelblau

open Interface Db LockProgram FunctionBody Entra Relation

variable {W : Type}

/-! ## 1. Tokens that were built -/

namespace Entra

section Validated

variable {a : String} {limit : UInt32} {Seals : SealedUnder} {own : Option LoadableMsHelloKey}
  {v v' : View}

theorem View.validated_log (v : View) {e : Event} (he : ∀ b t, e ≠ .validated b t) :
    (v.log e).validated = v.validated := by
  unfold View.validated View.log
  cases e with
  | validated b t => exact absurd rfl (he b t)
  | _ => rfl

theorem View.validated_bad (v : View) : (v.bad a limit).validated = v.validated := by
  unfold View.bad
  dsimp only
  split <;> rfl

theorem Move.validated_eq (h : Move a limit Seals own v v') : v'.validated = v.validated := by
  cases h with
  | bad => exact v.validated_bad
  | failed e ha he =>
    rw [View.validated_bad, View.validated_log]
    rintro b t rfl
    cases he
  | totpStored k kt d hk hd => rfl
  | mild h =>
    cases h with
    | log e ha he =>
      refine v.validated_log ?_
      rintro b t rfl
      cases he
    | reset e es hv he => rfl
    | sealed t k d ht hk hd => rfl
    | dropped t ht => rfl

theorem Move.validated_eq_of_moves (h : ReflTransGen (Move a limit Seals own) v v') :
    v'.validated = v.validated := by
  induction h with
  | refl => rfl
  | tail _ hstep ih => exact hstep.validated_eq.trans ih

end Validated

namespace HimmelblauProvider

section Steps

variable {P : HimmelblauProvider W} {Seals : SealedUnder} {own : Option LoadableMsHelloKey}
  {a : String} {old : UserToken} {atOnce : Bool} {v v' : View} {r : StepAnswer}

theorem successToken_eq_some {t : UserToken} :
    successToken r = some t ↔ ∃ action, r = .ok (.success t, action) := by
  constructor
  · intro h
    unfold successToken at h
    split at h
    · cases h
      exact ⟨_, rfl⟩
    · cases h
  · rintro ⟨action, rfl⟩
    rfl

/-- A step that builds no token succeeds with the old one; a step that builds one succeeds with
    it at once, or does not succeed. -/
def Builds (old : UserToken) (atOnce : Bool) (before after : List UserToken)
    (r : StepAnswer) : Prop :=
  (after = before ∧ ∀ t, successToken r = some t → t = old) ∨
    ∃ t, after = t :: before ∧ successToken r = if atOnce then some t else none

theorem Outcome.builds (h : Outcome Seals own a old P atOnce v r v') :
    Builds old atOnce v.validated v'.validated r := by
  cases h with
  | stale h hr => exact .inl ⟨Move.validated_eq_of_moves h, hr⟩
  | fresh t v1 h h' hr =>
    refine .inr ⟨t, ?_, hr⟩
    rw [Move.validated_eq_of_moves h', ← Move.validated_eq_of_moves h]
    rfl

variable (P a old)

theorem unixUserOnlineAuthStep_builds (service : String) (noHelloPin : Bool) (req : PamAuthRequest)
    (handler : AuthCredHandler) (ks : KeyStore) (p : ProviderState W) :
    let call := (entraProvider P).unixUserOnlineAuthStep a old service noHelloPin handler req ks p
    Builds old (P.succeedsAtOnce noHelloPin handler req (P.view a ks p))
      (P.view a ks p).validated (P.view a call.2.1 call.2.2).validated call.1.1 := by
  have h := (@unixUserOnlineAuthStep_ends W P _ a old (SealingLaws.trivial P) service noHelloPin req
    ⟨ks, p, handler⟩).run
  rcases h with h | ⟨token, pin, k, -, -, -, h⟩
  · exact h.2.builds
  · exact h.builds

theorem unixUserOfflineAuthStep_builds (req : PamAuthRequest) (handler : AuthCredHandler)
    (onlineAtInit : Bool) (ks : KeyStore) (p : ProviderState W) :
    let call := (entraProvider P).unixUserOfflineAuthStep a old handler req onlineAtInit ks p
    (P.view a call.2.1 call.2.2).validated = (P.view a ks p).validated ∧
      ∀ t, call.1.1 = .ok (.success t) → t = old := by
  have h := (himmelblauOfflineAuthStep_ensures (P := P) (a := a) (c := ⟨ks, p, handler⟩) none
    (SealingLaws.trivial P) old req).run
  refine ⟨Move.validated_eq_of_moves h.1.1, fun t ht => ?_⟩
  rcases h.2 with ⟨e, he⟩ | ⟨res, hres, hsuccess⟩
  · exact nomatch he.symm.trans ht
  · exact hsuccess t (Except.ok.inj (hres.symm.trans ht))

end Steps

end HimmelblauProvider

end Entra

/-! ## 2. A step of a session -/

namespace Daemon

variable {D : Daemon W} {p : InProgress} {old : UserToken}

def built (D : Daemon W) (a : String) (s : ResolverState (ProviderState W)) : List UserToken :=
  (D.viewOf a s).validated

variable {s s' : ResolverState (ProviderState W)}

theorem built_congr {a : String} (h : s'.client = s.client) : D.built a s' = D.built a s := by
  unfold built viewOf HimmelblauProvider.view View.validated
  rw [h]

/-- Whether the session's next step, if it validates a token, succeeds with it. -/
def atOnce (D : Daemon W) (p : InProgress) (s : ResolverState (ProviderState W))
    (req : PamAuthRequest) : Bool :=
  D.provider.succeedsAtOnce p.noHelloPin p.credHandler req (D.viewOf p.accountId s)

theorem built_getCachestate (a : String) (accountId : Option String)
    (s : ResolverState (ProviderState W)) :
    D.built a ((D.resolver.getCachestate accountId).exec s).2 = D.built a s :=
  congrArg View.validated (viewOf_getCachestate accountId s)

theorem offlineStep_builds {req : PamAuthRequest}
    {out : Except (Except Unit PamAuthResponse) (Except IdpError AuthResult)}
    {handler : AuthCredHandler} (h : D.resolver.OfflineStep p old req s out handler s') :
    D.built p.accountId s' = D.built p.accountId s ∧
      ∀ t, out = .ok (.ok (.success t)) → t = old := by
  cases h with
  | forced hforce => exact ⟨rfl, fun t h => nomatch h⟩
  | verified hforce cred hreq s' hcheck =>
    have hclient := D.resolver.client_checkCacheUserpassword old.uuid cred s
    rw [hcheck] at hclient
    refine ⟨built_congr hclient, fun t ht => ?_⟩
    cases ht
    rfl
  | wrong hforce cred hreq s' hcheck =>
    have hclient := D.resolver.client_checkCacheUserpassword old.uuid cred s
    rw [hcheck] at hclient
    exact ⟨built_congr hclient, fun t h => nomatch h⟩
  | refused s' hclient => exact ⟨built_congr hclient, fun t h => nomatch h⟩
  | asked hforce hreq call hcall =>
    rw [D.client_eq] at hcall
    subst hcall
    obtain ⟨hbuilt, hsuccess⟩ := D.provider.unixUserOfflineAuthStep_builds p.accountId old req
      p.credHandler p.onlineAtInit s.db.hsmDataT s.client
    exact ⟨hbuilt, fun t ht => hsuccess t (Except.ok.inj ht)⟩

variable (D p s) in
/-- If passwords can be hashed, the session ends where a token can be stored, and it succeeds
    nowhere else. -/
def EndsIfStorable (req : PamAuthRequest) : Prop :=
  (∀ cred, D.resolver.crypto.newArgon2idHsm s.entropy cred ≠ none) →
  (∀ p', (D.resolver.stepLogin ⟨.inProgress p, s⟩ req).session = .inProgress p' →
      ¬ D.resolver.Storable s) ∧
    ∀ spn, (D.resolver.stepLogin ⟨.inProgress p, s⟩ req).session = .success spn →
      D.resolver.Storable s

theorem onlineStep_builds (hold : p.token = some old) (req : PamAuthRequest)
    (honline : D.resolver.Online p s) :
    ∃ r, HimmelblauProvider.Builds old (D.atOnce p s req) (D.built p.accountId s)
        (D.built p.accountId (D.resolver.stepLogin ⟨.inProgress p, s⟩ req).state) r ∧
      (∀ t, D.resolver.stepToken ⟨.inProgress p, s⟩ req = some t → successToken r = some t) ∧
      ∀ t, successToken r = some t → EndsIfStorable D p s req := by
  have hclient := D.resolver.client_stepLogin ⟨.inProgress p, s⟩ req
  rw [D.resolver.exec_stepBranch_online hold honline] at hclient
  have hbuilt := D.provider.unixUserOnlineAuthStep_builds p.accountId old p.service p.noHelloPin req
    p.credHandler ((D.resolver.getCachestate (some p.accountId)).exec s).2.db.hsmDataT
    ((D.resolver.getCachestate (some p.accountId)).exec s).2.client
  rw [← D.client_eq] at hbuilt
  have hview : D.viewOf p.accountId ((D.resolver.getCachestate (some p.accountId)).exec s).2 =
    D.viewOf p.accountId s := viewOf_getCachestate _ s
  unfold viewOf at hview
  dsimp only at hclient hbuilt
  rw [(D.resolver.applyCacheAction_keeps _ _ _).1] at hclient
  rw [hview] at hbuilt
  generalize hcall : D.resolver.client.unixUserOnlineAuthStep p.accountId old p.service
    p.noHelloPin p.credHandler req _ _ = call at hclient hbuilt
  refine ⟨call.1.1, ?_, fun t ht => ?_, fun t hr => ?_⟩
  · rw [built_congr hclient]
    exact hbuilt
  · rw [Resolver.stepToken_eq_some, D.resolver.exec_stepBranch_online hold honline] at ht
    dsimp only at ht
    rw [hcall] at ht
    obtain ⟨action, hr⟩ := D.resolver.exec_applyCacheAction (Resolver.earlyReturn_eq_ok.mp ht)
    rw [hr]
    rfl
  · obtain ⟨action, hr⟩ := HimmelblauProvider.successToken_eq_some.mp hr
    intro hhash
    exact D.resolver.storable_of_online_success hold honline hhash (hcall.symm ▸ hr)

/-- A step builds no token and succeeds, if it does, with the session's; or it builds one.  Then
    it can only succeed with that one, and at once, if it can be stored. -/
theorem stepLogin_builds (hold : p.token = some old) (s : ResolverState (ProviderState W))
    (req : PamAuthRequest) :
    (D.built p.accountId (D.resolver.stepLogin ⟨.inProgress p, s⟩ req).state =
        D.built p.accountId s ∧
      ∀ t, D.resolver.stepToken ⟨.inProgress p, s⟩ req = some t → t = old) ∨
    ∃ t, D.built p.accountId (D.resolver.stepLogin ⟨.inProgress p, s⟩ req).state =
        t :: D.built p.accountId s ∧
      (∀ t', D.resolver.stepToken ⟨.inProgress p, s⟩ req = some t' →
        D.atOnce p s req = true ∧ t' = t) ∧
      (D.atOnce p s req = true → EndsIfStorable D p s req) := by
  by_cases honline : D.resolver.Online p s
  · obtain ⟨r, hbuilds, htoken, hends⟩ := onlineStep_builds hold req honline
    rcases hbuilds with ⟨hsame, hsuccess⟩ | ⟨t, hnew, hsuccess⟩
    · exact .inl ⟨hsame, fun t ht => hsuccess t (htoken t ht)⟩
    · refine .inr ⟨t, hnew, fun t' ht' => ?_, fun honce => ?_⟩
      · have hr := htoken t' ht'
        rw [hsuccess] at hr
        split at hr
        · rename_i honce
          exact ⟨honce, (Option.some.inj hr).symm⟩
        · cases hr
      · rw [honce] at hsuccess
        exact hends t hsuccess
  · left
    obtain ⟨handler, hstep, -⟩ := D.resolver.exec_authStepOffline p old req
      ((D.resolver.getCachestate (some p.accountId)).exec s).2
    obtain ⟨hbuilt, hsuccess⟩ := offlineStep_builds hstep
    have hclient := D.resolver.client_stepLogin ⟨.inProgress p, s⟩ req
    rw [D.resolver.exec_stepBranch_offline hold honline] at hclient
    refine ⟨?_, fun t ht => ?_⟩
    · rw [built_congr hclient, hbuilt, built_getCachestate]
    · rw [Resolver.stepToken_eq_some, D.resolver.exec_stepBranch_offline hold honline] at ht
      exact hsuccess t ht

/-! ## 3. A session -/

def BuildsNone (D : Daemon W) (a : String) (session : AuthSession) :
    List (ResolverState (ProviderState W) × PamAuthRequest) → Prop
  | [] => True
  | step :: steps =>
    D.built a (D.resolver.stepLogin ⟨session, step.1⟩ step.2).state = D.built a step.1 ∧
      BuildsNone D a (D.resolver.nextSession session step) steps

def SameIdentity (t t' : UserToken) : Prop :=
  t.uuid = t'.uuid ∧ t.gidnumber = t'.gidnumber ∧ t.realGidnumber = t'.realGidnumber ∧
    t.groups = t'.groups

instance (t t' : UserToken) : Decidable (SameIdentity t t') := inferInstanceAs (Decidable (_ ∧ _))

theorem sessionToken_of_buildsNone
    (steps : List (ResolverState (ProviderState W) × PamAuthRequest)) {spn : String}
    (hold : p.token = some old) (hnone : D.BuildsNone p.accountId (.inProgress p) steps)
    (hsuccess : D.resolver.runSession (.inProgress p) steps = .success spn) :
    D.resolver.sessionToken (.inProgress p) steps = some old := by
  induction steps generalizing p with
  | nil => cases hsuccess
  | cons step steps ih =>
    obtain ⟨s, req⟩ := step
    obtain ⟨hsame, hnone⟩ := hnone
    replace hsuccess : D.resolver.runSession (D.resolver.nextSession (.inProgress p) (s, req))
      steps = .success spn := hsuccess
    unfold Resolver.sessionToken
    cases hnext : D.resolver.nextSession (.inProgress p) (s, req) with
    | success spn' =>
      obtain ⟨t, ht⟩ := D.resolver.stepToken_of_success hnext
      rcases stepLogin_builds hold s req with ⟨-, htoken⟩ | ⟨t', hnew, -⟩
      · rw [← htoken t ht]
        exact ht
      · exact absurd (hsame.symm.trans hnew) (List.cons_ne_self _ _).symm
    | denied =>
      rw [hnext, D.resolver.runSession_denied] at hsuccess
      cases hsuccess
    | inProgress p' =>
      obtain ⟨p0, handler, hp0, hp'⟩ := D.resolver.session_of_stepLogin hnext
      cases hp0
      rw [hnext] at hsuccess hnone
      subst hp'
      exact ih hold hnone hsuccess

end Daemon

end Himmelblau

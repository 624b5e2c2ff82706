/-
  **Functions that leave the books alone.**  Most functions of a provider only ask the outside,
  and note whether it can be reached (`Calm`); some also look into the refresh cache or fill
  it (`Idle`).  They are walked through here once, and every judgement about what a
  provider does takes them from here.
-/
import Himmelblau.OidcStep

namespace Himmelblau

open Interface Config Msal FunctionBody Entra Entra.Ctx Oidc

variable {W ρ α : Type}

/-! ## 1. What may change -/

namespace Entra

/-- The keystore, the handler, the counters and the trace are as they were. -/
structure Idle (c c' : Ctx W) : Prop where
  keystore : c'.keystore = c.keystore
  credHandler : c'.credHandler = c.credHandler
  badPinCounter : c'.provider.badPinCounter = c.provider.badPinCounter
  trace : c'.provider.trace = c.provider.trace
  initialized : c.provider.initialized = true → c'.provider.initialized = true

structure Calm (c c' : Ctx W) : Prop extends Idle c c' where
  refreshCache : c'.provider.refreshCache = c.provider.refreshCache
  refreshTokenCache : c'.provider.refreshTokenCache = c.provider.refreshTokenCache

instance : Std.Refl (Idle (W := W)) := ⟨fun _ => ⟨rfl, rfl, rfl, rfl, id⟩⟩

instance : IsTrans (Ctx W) Idle :=
  ⟨fun _ _ _ h h' => ⟨h'.1.trans h.1, h'.2.trans h.2, h'.3.trans h.3, h'.4.trans h.4,
    fun hinit => h'.5 (h.5 hinit)⟩⟩

instance : Std.Refl (Calm (W := W)) := ⟨fun c => ⟨Std.Refl.refl c, rfl, rfl⟩⟩

instance : IsTrans (Ctx W) Calm :=
  ⟨fun _ _ _ h h' => ⟨IsTrans.trans _ _ _ h.toIdle h'.toIdle, h'.2.trans h.2, h'.3.trans h.3⟩⟩

end Entra

namespace FunctionBody.Body.Stays

theorem idle {p : Fn W ρ α} (h : Stays Calm p) : Stays Idle p := h.mono Calm.toIdle

theorem ask (f : Ext W α) : Stays Calm (ask f : Fn W ρ α) :=
  fun _ => ⟨⟨rfl, rfl, rfl, rfl, id⟩, rfl, rfl⟩

theorem setState (state : CacheState) : Stays Calm (setState state : Fn W ρ Unit) :=
  fun _ => ⟨⟨rfl, rfl, rfl, rfl, id⟩, rfl, rfl⟩

end FunctionBody.Body.Stays

/-! ## 2. The functions of both providers -/

namespace Entra.HimmelblauProvider

variable (P : HimmelblauProvider W)

theorem purge_idle : Body.Stays Idle (P.purge : Fn W ρ Unit) :=
  .bind (Body.Stays.ask _).idle fun _ => .modify fun _ => ⟨rfl, rfl, rfl, rfl, id⟩

variable {a : String} {token : UnixUserToken}

theorem refreshToken_idle : Body.Stays Idle (P.refreshToken a : Fn W ρ _) := by
  refine .bind P.purge_idle fun _ => .bind .get fun c => ?_
  split
  · exact .pure _
  · split <;> exact .pure _

theorem refreshCacheAdd_idle (entry : RefreshCacheEntry) :
    Body.Stays Idle (P.refreshCacheAdd a entry : Fn W ρ Unit) := by
  refine .bind (Body.Stays.ask _).idle fun _ => ?_
  cases entry with
  | prt prt => exact .modify fun _ => ⟨rfl, rfl, rfl, rfl, id⟩
  | refreshToken token => exact .modify fun _ => ⟨rfl, rfl, rfl, rfl, id⟩

theorem netDown_calm : Body.Stays Calm (P.netDown : Fn W ρ Unit) :=
  .bind (.ask _) fun _ => .setState _

theorem delayedInit_calm : Body.Stays Calm (P.delayedInit : Fn W ρ Bool) := by
  refine .bind .get fun c => ?_
  split
  · exact .pure _
  · refine .bind (.ask _) fun r => ?_
    split
    · exact .pure _
    · exact .bind (.modify fun _ => ⟨⟨rfl, rfl, rfl, rfl, fun _ => rfl⟩, rfl, rfl⟩) fun _ =>
        .bind (.ask _) fun _ => .pure _

theorem attemptOnline_calm (now : ℕ) : Body.Stays Calm (P.attemptOnline now : Fn W ρ Bool) := by
  refine .bind (.ask _) fun online => ?_
  split
  · exact .bind (.setState _) fun _ => .pure _
  · exact .bind (.setState _) fun _ => .pure _

theorem checkOnline_calm (now : ℕ) : Body.Stays Calm (P.checkOnline now : Fn W ρ Bool) := by
  refine .bind .get fun c => ?_
  split
  · exact .pure _
  · split
    · exact P.attemptOnline_calm now
    · exact .pure _
  · exact .pure _

theorem unsealText_calm (key : StorageKey) (data : SealedData) :
    Body.Stays Calm (P.unsealText key data : Fn W ρ _) := by
  refine .bind (.ask _) fun r => ?_
  split <;> exact .pure _

theorem createDecoupledHelloKey_calm (cred : String) :
    Body.Stays Calm (P.createDecoupledHelloKey cred : Fn W ρ _) := by
  unfold createDecoupledHelloKey
  split
  · exact .pure _
  · exact .ask _

theorem provisionOrCreateHelloKey_calm (amr : Bool) (cred : String) :
    Body.Stays Calm (P.provisionOrCreateHelloKey token amr cred : Fn W ρ _) := by
  unfold provisionOrCreateHelloKey
  split
  · refine .bind (.ask _) fun r => ?_
    split <;> exact .pure _
  · exact P.createDecoupledHelloKey_calm cred

theorem sealRefreshToken_calm (key : LoadableMsHelloKey) (pin token : String) :
    Body.Stays Calm (P.sealRefreshToken key pin token : Fn W ρ _) := by
  unfold sealRefreshToken
  split
  · exact .pure _
  · refine .bind (.ask _) fun key => ?_
    split
    · exact .pure _
    · exact .ask _

theorem intuneEnrollDevice_calm (deviceId : Option String) :
    Body.Stays Calm (P.intuneEnrollDevice deviceId token : Fn W ρ _) := by
  unfold intuneEnrollDevice
  split
  · exact .ask _
  · exact .pure _

theorem matchesRequestedUser_calm (spn : String) :
    Body.Stays Calm (P.matchesRequestedUser a spn : Fn W ρ _) := by
  unfold matchesRequestedUser
  split
  · exact .pure _
  · split
    · exact .bind (.ask _) fun _ => .pure _
    · exact .pure _

/-! ## 3. The sign-in frequency -/

theorem refreshTokenOk_idle : Body.Stays Idle (P.refreshTokenOk a : Fn W ρ _) := by
  refine .bind P.refreshToken_idle fun r => ?_
  split <;> exact .pure _

theorem signinFrequencyExchange_calm (prt : SealedData) :
    Body.Stays Calm (P.signinFrequencyExchange prt : Fn W ρ _) := by
  refine .bind (.ask _) fun r => ?_
  split
  · exact .ask _
  · split
    · exact .ask _
    · split
      · exact .ask _
      · exact .pure _
  · split
    · exact .ask _
    · exact .pure _
  · exact .pure _

theorem refreshPrt_idle (prt : SealedData) :
    Body.Stays Idle (P.refreshPrt a prt token : Fn W ρ _) := by
  refine .bind (Body.Stays.ask _).idle fun r => ?_
  split
  · exact .bind (P.refreshCacheAdd_idle _) fun _ => .pure _
  · exact .pure _

theorem tryPrtSigninFrequencyCheck_idle :
    Body.Stays Idle (P.tryPrtSigninFrequencyCheck a : Fn W ρ _) := by
  refine .bind P.refreshToken_idle fun r => ?_
  split
  · refine .bind (P.signinFrequencyExchange_calm _).idle fun r => ?_
    split
    · exact .bind (P.refreshPrt_idle _) fun _ => .pure _
    · exact .bind P.netDown_calm.idle fun _ => .pure _
    · exact .pure _
  · exact .pure _

end Entra.HimmelblauProvider

/-! ## 4. The OpenID Connect provider -/

namespace Oidc.OidcProvider

variable (O : OidcProvider W)

theorem clientDelayedInit_calm : Body.Stays Calm (O.clientDelayedInit : Fn W ρ Bool) := by
  unfold clientDelayedInit
  split
  · refine .bind (.ask _) fun found => ?_
    split
    · exact .bind (.modify fun _ => ⟨⟨rfl, rfl, rfl, rfl, fun _ => rfl⟩, rfl, rfl⟩) fun _ =>
        .pure _
    · exact .pure _
  · exact .pure _

theorem delayedInit_calm : Body.Stays Calm (O.delayedInit : Fn W ρ Bool) := by
  refine .bind .get fun c => ?_
  split
  · exact .pure _
  · split
    · exact .pure _
    · refine .bind (.ask _) fun added => ?_
      split
      · exact O.clientDelayedInit_calm
      · exact .pure _

theorem attemptOnline_calm (now : ℕ) : Body.Stays Calm (O.attemptOnline now : Fn W ρ Bool) := by
  refine .bind O.delayedInit_calm fun ok => ?_
  split
  · refine .bind (.ask _) fun up => ?_
    split
    · exact .bind (.setState _) fun _ => .pure _
    · exact .bind (.setState _) fun _ => .pure _
  · exact .bind O.netDown_calm fun _ => .pure _

theorem checkOnline_calm (now : ℕ) : Body.Stays Calm (O.checkOnline now : Fn W ρ Bool) := by
  refine .bind .get fun c => ?_
  split
  · exact .pure _
  · split
    · exact O.attemptOnline_calm now
    · exact .pure _
  · exact .pure _

theorem acquireTokenByRefreshToken_calm (token : String) (scopes : List String) :
    Body.Stays Calm (O.acquireTokenByRefreshToken token scopes : Fn W ρ _) := by
  refine .bind .get fun c => ?_
  split
  · refine .bind (.ask _) fun r => ?_
    split <;> exact .pure _
  · exact .pure _

theorem acquireTokenByDeviceFlow_calm (flow : DeviceAuthResponse) :
    Body.Stays Calm (O.acquireTokenByDeviceFlow flow : Fn W ρ _) := by
  refine .bind .get fun c => ?_
  split
  · refine .bind (.ask _) fun r => ?_
    split <;> exact .pure _
  · exact .pure _

theorem unixIds_calm (tenantId : Uuid) (b : String) :
    Body.Stays Calm (O.unixIds tenantId b : Fn W ρ _) := by
  refine .bind (.ask _) fun users => ?_
  split
  · exact .pure _
  · split
    · exact .pure _
    · refine .bind (.ask _) fun gid => ?_
      split <;> exact .pure _

theorem userTokenFromOidc_calm (token : OidcTokenResponse) (tenantId : Uuid) :
    Body.Stays Calm (O.userTokenFromOidc token tenantId : Fn W ρ _) := by
  refine .bind .get fun c => ?_
  split
  · refine .bind (.ask _) fun userinfo => ?_
    split
    · exact .pure _
    · split
      · exact .pure _
      · refine .bind (O.unixIds_calm _ _) fun ids => ?_
        split <;> exact .pure _
  · exact .pure _

variable {a : String}

theorem orchestratorTryStart_calm (details : DeviceAuthResponse) (dagJson : String) :
    Body.Stays Calm (O.orchestratorTryStart a details dagJson : Fn W ρ _) := by
  refine .bind (.ask _) fun r => ?_
  split <;> exact .pure _

end Oidc.OidcProvider

end Himmelblau

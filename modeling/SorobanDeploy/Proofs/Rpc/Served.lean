import SorobanDeploy.Rpc.Check

/-!
# Which answers tell of a network

An answer tells of a network exactly if its status is 200 and its body is a JSON object without an
error, whose result is an object with a passphrase (`readAnswer_eq_ok_iff`). A server serves the
network of a profile if the passphrase is that of the profile, and the check of the network succeeds
for no other server (`verifyNetwork_ok_iff`).
-/

namespace SorobanDeploy.Rpc

variable {σ α β : Type}

/-- Two steps of reading succeed exactly if the first one does and then the second one. -/
theorem bind_eq_ok_iff {x : Except Failure α} {f : α → Except Failure β} {b : β} :
    x >>= f = .ok b ↔ ∃ a, x = .ok a ∧ f a = .ok b := by
  cases x with
  | error e =>
    constructor
    · intro h; cases h
    · rintro ⟨a, h, -⟩; cases h
  | ok a =>
    constructor
    · intro h
      exact ⟨a, rfl, h⟩
    · rintro ⟨a', h, hb⟩
      cases h
      exact hb

/-! ## Reading a document -/

theorem memberOf_eq_ok_iff {name : String} {v member : Json} :
    memberOf name v = .ok member ↔
      ∃ members, v = .object members ∧ Pairs.get? name members = some member := by
  unfold memberOf
  cases v with
  | object members => cases hget : Pairs.get? name members <;> simp [hget]
  | _ => simp

/-- The information in a result with a passphrase. -/
def infoIn (result : Pairs String Json) (passphrase : Json) : NetworkInfo where
  passphrase := passphrase
  protocolVersion := (Pairs.get? "protocolVersion" result).getD .null
  friendbotUrl := (Pairs.get? "friendbotUrl" result).getD .null

/-- The members of a document that tells of a network: no error, and a result with a passphrase. -/
structure Tells (members result : Pairs String Json) (passphrase : Json) : Prop where
  clean : Pairs.get? "error" members = none
  object : Pairs.get? "result" members = some (.object result)
  named : Pairs.get? "passphrase" result = some passphrase

/-- A document has a result that is read exactly if it is an object whose result is an object with a
passphrase. -/
theorem infoOf_eq_ok_iff {v : Json} {info : NetworkInfo} :
    infoOf v = .ok info ↔ ∃ members result passphrase, v = .object members ∧
      Pairs.get? "result" members = some (.object result) ∧
      Pairs.get? "passphrase" result = some passphrase ∧ info = infoIn result passphrase := by
  unfold infoOf
  simp only [bind_eq_ok_iff, memberOf_eq_ok_iff]
  constructor
  · rintro ⟨data, ⟨members, rfl, hobject⟩, passphrase, ⟨result, rfl, hnamed⟩, h⟩
    cases h
    exact ⟨members, result, passphrase, rfl, hobject, hnamed, rfl⟩
  · rintro ⟨members, result, passphrase, rfl, hobject, hnamed, rfl⟩
    exact ⟨_, ⟨members, rfl, hobject⟩, passphrase, ⟨result, rfl, hnamed⟩, rfl⟩

/-- A document tells of a network exactly if it is an object without an error, whose result is an
object with a passphrase. -/
theorem readDocument_eq_ok_iff {url : String} {v : Json} {info : NetworkInfo} :
    readDocument url v = .ok info ↔ ∃ members result passphrase, v = .object members ∧
      Tells members result passphrase ∧ info = infoIn result passphrase := by
  unfold readDocument
  rw [bind_eq_ok_iff]
  constructor
  · rintro ⟨found, hmentions, h⟩
    cases found with
    | true =>
      rw [if_pos rfl, bind_eq_ok_iff] at h
      obtain ⟨error, -, h⟩ := h
      cases h
    | false =>
      rw [if_neg Bool.false_ne_true] at h
      cases hinfo : infoOf v with
      | error e => rw [hinfo] at h; cases h
      | ok told =>
        rw [hinfo] at h
        cases h
        obtain ⟨members, result, passphrase, rfl, hobject, hnamed, rfl⟩ := infoOf_eq_ok_iff.1 hinfo
        have hclean : Pairs.get? "error" members = none := by
          unfold mentions at hmentions
          simpa using hmentions
        exact ⟨members, result, passphrase, rfl, ⟨hclean, hobject, hnamed⟩, rfl⟩
  · rintro ⟨members, result, passphrase, rfl, htells, rfl⟩
    refine ⟨false, by rw [mentions, htells.clean]; rfl, ?_⟩
    have hinfo := infoOf_eq_ok_iff.2
      ⟨members, result, passphrase, rfl, htells.object, htells.named, rfl⟩
    rw [if_neg Bool.false_ne_true, hinfo]
    rfl

theorem mapError_eq_ok_iff {x : Except Failure α} {f : Failure → Failure} {a : α} :
    x.mapError f = .ok a ↔ x = .ok a := by
  cases x with
  | error e => exact ⟨nofun, nofun⟩
  | ok b => exact Iff.rfl

/-- An answer tells of a network exactly if its status is 200 and its document does. -/
theorem readAnswer_eq_ok_iff {url : String} {a : Answer} {info : NetworkInfo} :
    readAnswer url a = .ok info ↔ a.status = 200 ∧ ∃ members result passphrase,
      documentOf a = .ok (.object members) ∧ Tells members result passphrase ∧
        info = infoIn result passphrase := by
  unfold readAnswer
  by_cases hstatus : a.status = 200
  · rw [if_neg fun h => h hstatus]
    simp only [bind_eq_ok_iff, mapError_eq_ok_iff, readDocument_eq_ok_iff]
    constructor
    · rintro ⟨v, hdocument, members, result, passphrase, rfl, htells⟩
      exact ⟨hstatus, members, result, passphrase, hdocument, htells⟩
    · rintro ⟨-, members, result, passphrase, hdocument, htells⟩
      exact ⟨_, hdocument, members, result, passphrase, rfl, htells⟩
  · rw [if_pos hstatus]
    constructor
    · intro h; cases h
    · rintro ⟨h, -⟩
      exact absurd h hstatus

/-! ## Asking a server -/

/-- An answer that tells of the network of a profile. -/
def Serves (profile : NetworkProfile) (a : Answer) : Prop :=
  a.status = 200 ∧ ∃ members result, documentOf a = .ok (.object members) ∧
    Tells members result (.text profile.passphrase)

/-- What comes back when an address is asked on a host: an answer, or why there is none. -/
def deliveryFrom (transport : Transport σ) (url : String) (h : Host σ) : Except Failure Answer :=
  Url.prepare url >>= fun ready => (transport ⟨ready, defaultTimeout⟩ h.outside).1

/-- The server of a profile answers that it serves the network of the profile. -/
def Served (transport : Transport σ) (profile : NetworkProfile) (h : Host σ) : Prop :=
  ∃ a, deliveryFrom transport profile.rpcUrl h = .ok a ∧ Serves profile a

/-- An answer with status 200 is received as it is. -/
theorem received_of_status {a : Answer} (hstatus : a.status = 200) : a.received = .ok a := by
  unfold Answer.received isBodiless
  rw [hstatus]
  rfl

/-- What is received is what came. -/
theorem eq_of_received {a b : Answer} (h : a.received = .ok b) : a = b := by
  unfold Answer.received at h
  split at h
  · cases h
  · cases h
    rfl

/-- A server is asked with success exactly if an answer comes that tells of a network. -/
theorem getNetworkInfo_ok_iff {transport : Transport σ} {url : String} {h : Host σ}
    {info : NetworkInfo} :
    (getNetworkInfo transport url defaultTimeout h).answer = .ok info ↔
      ∃ a, deliveryFrom transport url h = .ok a ∧ readAnswer url a = .ok info := by
  unfold getNetworkInfo deliveryFrom
  cases hprepare : Url.prepare url with
  | error e =>
    constructor
    · intro h; cases h
    · rintro ⟨a, h, -⟩; cases h
  | ok ready =>
    simp only [bind, Except.bind]
    cases hsent : (transport ⟨ready, defaultTimeout⟩ h.outside).1 with
    | error e =>
      constructor
      · intro h; cases h
      · rintro ⟨a, h, -⟩; cases h
    | ok a =>
      simp only
      cases hreceived : a.received with
      | error e =>
        constructor
        · intro h; cases h
        · rintro ⟨b, h, hread⟩
          cases h
          rw [received_of_status (readAnswer_eq_ok_iff.1 hread).1] at hreceived
          cases hreceived
      | ok b =>
        obtain rfl := eq_of_received hreceived
        constructor
        · intro h
          exact ⟨a, rfl, h⟩
        · rintro ⟨b, h, hread⟩
          cases h
          exact hread

theorem matchesProfile_iff {profile : NetworkProfile} {info : NetworkInfo} :
    matchesProfile profile info = true ↔ info.passphrase = .text profile.passphrase := by
  unfold matchesProfile
  cases info.passphrase with
  | text s => simp
  | _ => simp

/-- The check of a network succeeds exactly if the server answers that it serves it. -/
theorem verifyNetwork_ok_iff (transport : Transport σ) (profile : NetworkProfile) (h : Host σ) :
    (∃ info, (verifyNetwork transport profile h).answer = .ok info) ↔
      Served transport profile h := by
  unfold verifyNetwork Served Serves
  dsimp only
  constructor
  · rintro ⟨told, htold⟩
    cases hinfo : (getNetworkInfo transport profile.rpcUrl defaultTimeout h).answer with
    | error e => rw [hinfo] at htold; cases htold
    | ok info =>
      rw [hinfo] at htold
      dsimp only at htold
      split at htold
      · rename_i hmatches
        obtain ⟨a, ha, hread⟩ := getNetworkInfo_ok_iff.1 hinfo
        obtain ⟨hstatus, members, result, passphrase, hdocument, htells, rfl⟩ :=
          readAnswer_eq_ok_iff.1 hread
        have hnamed : passphrase = .text profile.passphrase := matchesProfile_iff.1 hmatches
        rw [hnamed] at htells
        exact ⟨a, ha, hstatus, members, result, hdocument, htells⟩
      · cases htold
  · rintro ⟨a, ha, hstatus, members, result, hdocument, htells⟩
    have hinfo := getNetworkInfo_ok_iff.2 ⟨a, ha, readAnswer_eq_ok_iff.2
      ⟨hstatus, members, result, _, hdocument, htells, rfl⟩⟩
    refine ⟨infoIn result (.text profile.passphrase), ?_⟩
    rw [hinfo]
    dsimp only
    rw [if_pos (matchesProfile_iff.2 rfl)]

/-- Asking a server leaves the host, but for what is outside, and there it only sends requests. -/
theorem verifyNetwork_host (transport : Transport σ) (profile : NetworkProfile) (h : Host σ) :
    (verifyNetwork transport profile h).host = h ∨
      ∃ request, (verifyNetwork transport profile h).host =
        { h with outside := (transport request h.outside).2 } := by
  have hasked : (getNetworkInfo transport profile.rpcUrl defaultTimeout h).host = h ∨
      ∃ request, (getNetworkInfo transport profile.rpcUrl defaultTimeout h).host =
        { h with outside := (transport request h.outside).2 } := by
    unfold getNetworkInfo
    cases Url.prepare profile.rpcUrl with
    | error e => exact .inl rfl
    | ok ready => exact .inr ⟨_, rfl⟩
  unfold verifyNetwork
  dsimp only
  split
  · exact hasked
  · split <;> exact hasked

end SorobanDeploy.Rpc

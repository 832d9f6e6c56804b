import SorobanDeploy.Proofs.Json.Depth
import SorobanDeploy.Proofs.Rpc.Served
import SorobanDeploy.Proofs.Session.Along

/-!
# What a server's answer is taken for

Whatever a server answers, its network is told or the check of the network fails, with two
exceptions (`getNetworkInfo_answered`). A document that is nested too deep for the reader fails as
that, and a document is looked into for an error before it is known to be an object: one that the
look fails on ends the check with a failure of another class (`Misread`).
-/

namespace SorobanDeploy.Rpc

open Text

variable {σ α β : Type} {url : String} {v : Json} {a : Answer} {e : Failure}

/-- Two steps of reading fail exactly if the first one does or then the second one. -/
theorem bind_eq_error_iff {x : Except Failure α} {f : α → Except Failure β} :
    x >>= f = .error e ↔ x = .error e ∨ ∃ a, x = .ok a ∧ f a = .error e := by
  cases x with
  | error d =>
    constructor
    · intro h
      exact .inl (congrArg Except.error (Except.error.inj h))
    · rintro (h | ⟨a, h, -⟩)
      · exact congrArg Except.error (Except.error.inj h)
      · cases h
  | ok a =>
    constructor
    · intro h
      exact .inr ⟨a, rfl, h⟩
    · rintro (h | ⟨b, h, hf⟩)
      · cases h
      · cases h
        exact hf

theorem mapError_eq_error_iff {x : Except β α} {f : β → Failure} :
    x.mapError f = .error e ↔ ∃ d, x = .error d ∧ f d = e := by
  cases x with
  | ok a => exact ⟨nofun, nofun⟩
  | error d =>
    constructor
    · intro h
      exact ⟨d, rfl, Except.error.inj h⟩
    · rintro ⟨c, h, rfl⟩
      cases h
      rfl

/-! ## Reading a body -/

/-- Octets that cannot be read by a name are a bad value. -/
theorem isA_of_readAs {name : List Char} {body : Octets} (h : readAs name body = .error e) :
    e.isA .badValue = true := by
  have hgaps (h : readGaps body = .error e) : e.isA .badValue = true := by
    unfold readGaps at h
    simp only at h
    split at h
    · cases h
      rfl
    · cases h
  unfold readAs at h
  split at h
  · cases h
  · split at h
    · cases h
      rfl
    · split at h
      · cases h
      · cases h
      · exact hgaps h
      · cases h
        rfl

theorem isA_of_bodyText {contentType : Option String} {body : Octets}
    (h : bodyText contentType body = .error e) : e.isA .badValue = true := by
  unfold bodyText at h
  simp only at h
  split at h
  · cases h
  · exact isA_of_readAs h

/-- A body without a document has a bad value in it, or it opens more lists and objects than the
reader takes. -/
theorem documentOf_fails (h : documentOf a = .error e) : e.isA .badValue = true ∨
    e.kind = .tooDeep ∧ ∃ text, bodyText a.contentType a.body = .ok text ∧
      Json.maxDepth < text.countP Json.isOpening := by
  unfold documentOf at h
  rcases bind_eq_error_iff.1 h with h | ⟨text, htext, h⟩
  · exact .inl (isA_of_bodyText h)
  · obtain ⟨flaw, hread, rfl⟩ := mapError_eq_error_iff.1 h
    cases flaw with
    | malformed => exact .inl rfl
    | tooManyDigits => exact .inl rfl
    | listTooDeep => exact .inr ⟨rfl, text, htext, Json.openings_of_deep hread rfl⟩
    | objectTooDeep => exact .inr ⟨rfl, text, htext, Json.openings_of_deep hread rfl⟩

/-! ## Reading a document -/

/-- The look for an error fails on a document: it is no object, and nothing can be looked for in it,
or the word is found. -/
def Misread : Json → Prop
  | .object _ => False
  | .list items => .text "error" ∈ items
  | .text s => "error".toList <:+: s.toList
  | .null | .bool _ | .whole _ | .real _ => True

theorem holds_iff {needle cs : List Char} : holds needle cs = true ↔ needle <:+: cs := by
  induction cs with
  | nil => simp [holds]
  | cons c cs ih => rw [holds, Bool.or_eq_true, List.isPrefixOf_iff_prefix, ih, List.infix_cons_iff]

theorem any_isText_iff {items : List Json} :
    (items.any fun v => match v with | .text s => s = "error" | _ => false) = true ↔
      .text "error" ∈ items := by
  rw [List.any_eq_true]
  constructor
  · rintro ⟨v, hmem, hv⟩
    cases v with
    | text s => exact of_decide_eq_true hv ▸ hmem
    | _ => cases hv
  · intro hmem
    exact ⟨_, hmem, rfl⟩

/-- A look for an error finds none in what is no object exactly if that is not misread. -/
theorem mentions_eq_false_iff (hv : ∀ members, v ≠ .object members) :
    mentions "error" v = .ok false ↔ ¬Misread v := by
  cases v with
  | object members => exact absurd rfl (hv members)
  | list items =>
    have hnone : (items.any fun v => match v with | .text s => s = "error" | _ => false) = false ↔
        ¬(.text "error" ∈ items) := by
      rw [← any_isText_iff, Bool.not_eq_true]
    exact (Iff.of_eq (Except.ok.injEq _ _)).trans hnone
  | text s =>
    have hnone : holds "error".toList s.toList = false ↔ ¬("error".toList <:+: s.toList) := by
      rw [← holds_iff, Bool.not_eq_true]
    exact (Iff.of_eq (Except.ok.injEq _ _)).trans hnone
  | null | bool b | whole n | real x => simp [mentions, Misread]

theorem kind_of_mentions {name : String} (h : mentions name v = .error e) : e.kind = .badKind := by
  unfold mentions at h
  split at h <;> cases h
  rfl

/-- What is no object has no members. -/
theorem memberOf_of_ne_object (hv : ∀ members, v ≠ .object members) (name : String) :
    memberOf name v = .error (noMembers v) := by
  cases v with
  | object members => exact absurd rfl (hv members)
  | _ => rfl

/-- A document without an error is taken for what is told in it, and has another shape if nothing
is. -/
theorem readDocument_of_clean (h : mentions "error" v = .ok false) : readDocument url v =
    (infoOf v).mapError fun e => (Problem.unexpectedAnswer url v.shown).because e := by
  unfold readDocument
  rw [h]
  cases infoOf v <;> rfl

theorem kind_of_clean (hclean : mentions "error" v = .ok false)
    (h : readDocument url v = .error e) : e.kind = .networkCheck := by
  rw [readDocument_of_clean hclean] at h
  obtain ⟨d, -, rfl⟩ := mapError_eq_error_iff.1 h
  rfl

/-- An object that tells of no network ends the check. -/
theorem kind_of_object {members : Pairs String Json}
    (h : readDocument url (.object members) = .error e) : e.kind = .networkCheck := by
  cases hget : Pairs.get? "error" members with
  | none =>
    have hclean : mentions "error" (.object members) = .ok false := by rw [mentions, hget]; rfl
    exact kind_of_clean hclean h
  | some error =>
    have hmember : memberOf "error" (.object members) = .ok error :=
      memberOf_eq_ok_iff.2 ⟨members, rfl, hget⟩
    have hfound : mentions "error" (.object members) = .ok true := by rw [mentions, hget]; rfl
    unfold readDocument at h
    rw [hfound, hmember] at h
    cases h
    rfl

/-- What is no object ends the check, unless it is misread. -/
theorem kind_of_ne_object (hv : ∀ members, v ≠ .object members)
    (h : readDocument url v = .error e) :
    Misread v ∧ e.kind = .badKind ∨ ¬Misread v ∧ e.kind = .networkCheck := by
  by_cases hclean : mentions "error" v = .ok false
  · exact .inr ⟨(mentions_eq_false_iff hv).1 hclean, kind_of_clean hclean h⟩
  · refine .inl ⟨not_not.1 fun hread => hclean ((mentions_eq_false_iff hv).2 hread), ?_⟩
    unfold readDocument at h
    rcases bind_eq_error_iff.1 h with hfails | ⟨found, hfound, h⟩
    · exact kind_of_mentions hfails
    · have htrue : found = true := by
        cases found with
        | true => rfl
        | false => exact absurd hfound hclean
      rw [if_pos htrue, memberOf_of_ne_object hv] at h
      cases h
      rfl

/-- A document that tells of no network ends the check, unless it is misread. -/
theorem readDocument_fails (h : readDocument url v = .error e) :
    Misread v ∧ e.kind = .badKind ∨ ¬Misread v ∧ e.kind = .networkCheck := by
  cases v with
  | object members => exact .inr ⟨id, kind_of_object h⟩
  | _ => exact kind_of_ne_object (by simp) h

/-! ## Reading an answer -/

/-- The document of an answer is misread. -/
def Answer.IsMisread (a : Answer) : Prop :=
  a.status = 200 ∧ ∃ v, documentOf a = .ok v ∧ Misread v

/-- The document of an answer is nested too deep for the reader. -/
def Answer.IsTooDeep (a : Answer) : Prop :=
  a.status = 200 ∧ ∃ e, documentOf a = .error e ∧ e.kind = .tooDeep

/-- A failure for depth is no bad value. -/
theorem not_isA_of_tooDeep (hdeep : e.kind = .tooDeep) : ¬e.isA .badValue = true := by
  unfold Failure.isA
  rw [hdeep]
  decide

/-- Only a body that opens more lists and objects than the reader takes is nested too deep. -/
theorem Answer.IsTooDeep.openings (h : a.IsTooDeep) : ∃ text,
    bodyText a.contentType a.body = .ok text ∧ Json.maxDepth < text.countP Json.isOpening := by
  obtain ⟨-, e, he, hdeep⟩ := h
  exact ((documentOf_fails he).resolve_left (not_isA_of_tooDeep hdeep)).2

/-- An answer that tells of no network ends the check, unless its document is misread or nested too
deep. -/
theorem readAnswer_fails (h : readAnswer url a = .error e) :
    (¬a.IsMisread → ¬a.IsTooDeep → e.kind = .networkCheck) ∧
      (a.IsMisread → e.kind = .badKind) ∧ (a.IsTooDeep → e.kind = .tooDeep) := by
  unfold readAnswer at h
  by_cases hstatus : a.status = 200
  · rw [if_neg (not_not_intro hstatus)] at h
    rcases bind_eq_error_iff.1 h with h | ⟨v, hv, h⟩
    · -- There is no document.
      obtain ⟨d, hd, rfl⟩ := mapError_eq_error_iff.1 h
      refine ⟨fun _ hshallow => ?_, ?_, ?_⟩
      · have hbad : d.isA .badValue = true := (documentOf_fails hd).resolve_right fun hdeep =>
          hshallow ⟨hstatus, d, hd, hdeep.1⟩
        rw [notJson, if_pos hbad]
        rfl
      · rintro ⟨-, v, hv, -⟩
        cases hd.symm.trans hv
      · rintro ⟨-, c, hc, hdeep⟩
        cases hd.symm.trans hc
        rw [notJson, if_neg (not_isA_of_tooDeep hdeep)]
        exact hdeep
    · have hdocument := mapError_eq_ok_iff.1 hv
      refine ⟨fun hread _ => ?_, ?_, ?_⟩
      · have hclean := (readDocument_fails h).resolve_left fun hmisread =>
          hread ⟨hstatus, v, hdocument, hmisread.1⟩
        exact hclean.2
      · rintro ⟨-, w, hw, hmisread⟩
        cases hdocument.symm.trans hw
        exact ((readDocument_fails h).resolve_right fun hclean => hclean.1 hmisread).2
      · rintro ⟨-, c, hc, -⟩
        cases hc.symm.trans hdocument
  · rw [if_pos hstatus] at h
    cases h
    exact ⟨fun _ _ => rfl, fun h => absurd h.1 hstatus, fun h => absurd h.1 hstatus⟩

/-- An answer whose document is misread or nested too deep tells of no network. -/
theorem exists_error_of_unread (h : a.IsMisread ∨ a.IsTooDeep) :
    ∃ e, readAnswer url a = .error e := by
  cases hread : readAnswer url a with
  | error e => exact ⟨e, rfl⟩
  | ok info =>
    obtain ⟨-, members, _, _, hdocument, -, -⟩ := readAnswer_eq_ok_iff.1 hread
    rcases h with ⟨-, v, hv, hmisread⟩ | ⟨-, e, he, -⟩
    · cases hdocument.symm.trans hv
      exact absurd hmisread id
    · cases hdocument.symm.trans he

/-! ## Asking a server -/

/-- A server that answers is taken for what it answers, but for a body where none may be. -/
theorem answer_of_delivery {transport : Transport σ} {ready : String} {timeout : Json} {h : Host σ}
    (hready : Url.prepare url = .ok ready)
    (hanswer : (transport ⟨ready, timeout⟩ h.outside).1 = .ok a) :
    (getNetworkInfo transport url timeout h).answer = readAnswer url a ∨
      a.status ≠ 200 ∧ ∃ e, (getNetworkInfo transport url timeout h).answer = .error e ∧
        e.kind = .networkCheck := by
  cases hreceived : a.received with
  | ok b =>
    obtain rfl := eq_of_received hreceived
    left
    unfold getNetworkInfo
    rw [hready]
    simp only [hanswer, Except.bind, hreceived]
  | error e =>
    have hstatus : a.status ≠ 200 := by
      intro hstatus
      rw [received_of_status hstatus] at hreceived
      cases hreceived
    have hunreached :
        (getNetworkInfo transport url timeout h).answer = .error (unreached url e) := by
      unfold getNetworkInfo
      rw [hready]
      simp only [hanswer, Except.bind, hreceived]
    refine .inr ⟨hstatus, _, hunreached, ?_⟩
    unfold Answer.received at hreceived
    split at hreceived
    · cases hreceived
      rfl
    · cases hreceived

/-- Whatever a server answers, its network is told, exactly if the status is 200 and the body is an
object without an error whose result is an object with a passphrase; or the check of the network
fails. It fails as another class if the document is misread, and if it is nested too deep, which is
so only if the body opens more lists and objects than the reader takes. -/
theorem getNetworkInfo_answered {transport : Transport σ} {ready : String} {timeout : Json}
    {h : Host σ} (hready : Url.prepare url = .ok ready)
    (hanswer : (transport ⟨ready, timeout⟩ h.outside).1 = .ok a) :
    (∀ info, (getNetworkInfo transport url timeout h).answer = .ok info ↔
      a.status = 200 ∧ ∃ members result passphrase, documentOf a = .ok (.object members) ∧
        Tells members result passphrase ∧ info = infoIn result passphrase) ∧
    (¬a.IsMisread → ¬a.IsTooDeep →
      (∃ info, (getNetworkInfo transport url timeout h).answer = .ok info) ∨
        ∃ e, (getNetworkInfo transport url timeout h).answer = .error e ∧
          e.kind = .networkCheck) ∧
    (a.IsMisread → ∃ e, (getNetworkInfo transport url timeout h).answer = .error e ∧
      e.kind = .badKind) ∧
    (a.IsTooDeep → ∃ e, (getNetworkInfo transport url timeout h).answer = .error e ∧
      e.kind = .tooDeep) ∧
    (∀ text, bodyText a.contentType a.body = .ok text →
      text.countP Json.isOpening ≤ Json.maxDepth → ¬a.IsTooDeep) := by
  have hshallow : ∀ text, bodyText a.contentType a.body = .ok text →
      text.countP Json.isOpening ≤ Json.maxDepth → ¬a.IsTooDeep := by
    intro text htext hle hdeep
    obtain ⟨other, hother, hlt⟩ := hdeep.openings
    cases htext.symm.trans hother
    exact absurd hlt (Nat.not_lt.2 hle)
  rcases answer_of_delivery hready hanswer with hread | ⟨hstatus, e, hfails, hkind⟩
  · rw [hread]
    refine ⟨fun info => readAnswer_eq_ok_iff, fun hgood hflat => ?_, fun hmisread => ?_,
      fun hdeep => ?_, hshallow⟩
    · cases hanswered : readAnswer url a with
      | ok info => exact .inl ⟨info, rfl⟩
      | error e => exact .inr ⟨e, rfl, (readAnswer_fails hanswered).1 hgood hflat⟩
    · obtain ⟨e, he⟩ : ∃ e, readAnswer url a = .error e := exists_error_of_unread (.inl hmisread)
      exact ⟨e, he, (readAnswer_fails he).2.1 hmisread⟩
    · obtain ⟨e, he⟩ : ∃ e, readAnswer url a = .error e := exists_error_of_unread (.inr hdeep)
      exact ⟨e, he, (readAnswer_fails he).2.2 hdeep⟩
  · rw [hfails]
    refine ⟨fun info => ?_, fun _ _ => .inr ⟨e, rfl, hkind⟩, fun h => absurd h.1 hstatus,
      fun h => absurd h.1 hstatus, hshallow⟩
    constructor
    · intro h
      cases h
    · rintro ⟨h, -⟩
      exact absurd h hstatus

/-- A server that gives one answer, whatever it is asked. -/
def always (a : Answer) : Transport Unit := fun _ _ => (.ok a, ())

/-- A host on which nothing stands. -/
def bareHost : Host Unit where
  tree := []
  cwd := .live []
  env := []
  renameFault := none
  outside := ()

/-- The answer with a status and a text as its body. -/
def answering (status : Nat) (body : String) : Answer :=
  ⟨status, some "application/json", Utf8.encode body.toList⟩

theorem prepare_example : Url.prepare "https://rpc.example.org" = .ok "https://rpc.example.org/" :=
  Act.result_eq_ok_of_toOption (by decide +kernel)

/-- A number as the document of an answer is misread, unless the answer has another status. -/
theorem number_answered :
    (∃ e, (getNetworkInfo (always (answering 503 "5")) "https://rpc.example.org" defaultTimeout
      bareHost).answer = .error e ∧ e.kind = .networkCheck) ∧
    ∃ e, (getNetworkInfo (always (answering 200 "5")) "https://rpc.example.org" defaultTimeout
      bareHost).answer = .error e ∧ e.kind = .badKind := by
  have hanswer (a : Answer) :
      (always a ⟨"https://rpc.example.org/", defaultTimeout⟩ bareHost.outside).1 = .ok a := rfl
  constructor
  · obtain ⟨htells, hends, -⟩ :=
      getNetworkInfo_answered prepare_example (hanswer (answering 503 "5"))
    refine (hends (fun h => absurd h.1 (by decide)) fun h => absurd h.1 (by decide)).resolve_left ?_
    rintro ⟨info, hinfo⟩
    exact absurd ((htells info).1 hinfo).1 (by decide)
  · obtain ⟨-, -, hfails, -⟩ :=
      getNetworkInfo_answered prepare_example (hanswer (answering 200 "5"))
    have hdocument : documentOf (answering 200 "5") = .ok (.whole 5) := by
      with_unfolding_all rfl
    exact hfails ⟨rfl, _, hdocument, trivial⟩

/-- A number as the document of an answer is looked into for an error, which fails as no failure of
the check. -/
theorem number_misread :
    (match (getNetworkInfo (always (answering 200 "5")) "https://rpc.example.org" defaultTimeout
      bareHost).answer with
      | .error e => some e.kind
      | .ok _ => none) = some .badKind ∧ FailureClass.badKind.isA .networkCheck = false := by
  constructor
  · decide +kernel
  · decide

end SorobanDeploy.Rpc

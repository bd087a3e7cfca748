import InfobaseGateway.Proofs.Text.Ascii
import InfobaseGateway.Proofs.Wire.Written
import InfobaseGateway.Rpc.Trace

/-!
# One id for span and service

Whatever headers a request has, the service behind the span sees an id in the first value of the
header for ids, and the span records that id. A caller that gives a usable id there has all its
headers kept. Every other caller has its ids replaced by a new one, and the other headers kept.

The headers that come out of a span give an id themselves, so a second span around the same service
keeps it and records it too.

New ids are uuids, and all that matters about them is that their text can be the value of a header.
-/

namespace InfobaseGateway

/-! ## Values -/

namespace HeaderValue

theorem isAllowed_of_isShown {b : UInt8} (h : isShown b = true) : isAllowed b = true := by
  simp only [isShown, isAllowed, Bool.or_eq_true, Bool.and_eq_true, decide_eq_true_eq] at h ⊢
  rcases h with htab | ⟨hlow, hhigh⟩
  · exact .inl htab
  · exact .inr ⟨hlow, UInt8.ne_of_lt hhigh⟩

/-- A text of bytes that can be shown is the text of its value. -/
theorem exists_ofText?_eq_some
    {text : String} (hshown : ∀ b ∈ utf8Bytes text, isShown b = true) :
    ∃ value, ofText? text = some value ∧ value.text? = some text := by
  have hallowed : (utf8Bytes text).all isAllowed = true :=
    List.all_eq_true.mpr fun b hb => isAllowed_of_isShown (hshown b hb)
  refine ⟨⟨utf8Bytes text, hallowed⟩, dif_pos hallowed, ?_⟩
  rw [text?, if_pos (List.all_eq_true.mpr hshown)]
  exact textOfUtf8?_utf8Bytes text

end HeaderValue

/-- A digit of a uuid. -/
def isHexDigit (c : Char) : Bool :=
  c.isDigit || 'a'.toNat ≤ c.toNat && c.toNat ≤ 'f'.toNat

/-- The text of a uuid: groups of hexadecimal digits with hyphens between them. -/
structure IsUuidText (text : String) : Prop where
  grouped : (text.toList.splitOn '-').map List.length = [8, 4, 4, 4, 12]
  digits : ∀ c ∈ text.toList, c = '-' ∨ isHexDigit c = true

namespace IsUuidText

variable {text : String}

theorem ne_empty (h : IsUuidText text) : text ≠ "" := by
  rintro rfl
  exact absurd h.grouped (by decide)

theorem shown_char (h : IsUuidText text) : ∀ c ∈ text.toList, 0x20 ≤ c.toNat ∧ c.toNat < 0x7f := by
  intro c hc
  rcases h.digits c hc with rfl | hdigit
  · decide
  · simp only [isHexDigit, Bool.or_eq_true, Bool.and_eq_true, decide_eq_true_eq,
      Char.isDigit_iff_toNat] at hdigit
    have hzero : '0'.toNat = 48 := rfl
    have hnine : '9'.toNat = 57 := rfl
    have ha : 'a'.toNat = 97 := rfl
    have hf : 'f'.toNat = 102 := rfl
    omega

theorem shown (h : IsUuidText text) : ∀ b ∈ utf8Bytes text, HeaderValue.isShown b = true := by
  have hascii : ∀ c ∈ text.toList, c.toNat < 0x80 :=
    fun c hc => Nat.lt_trans (h.shown_char c hc).2 (by decide)
  rw [Text.utf8Bytes_of_ascii hascii]
  intro b hb
  obtain ⟨c, hc, rfl⟩ := List.mem_map.mp hb
  obtain ⟨hlow, hhigh⟩ := h.shown_char c hc
  have hbyte : c.toUInt8.toNat = c.toNat := Nat.mod_eq_of_lt (Nat.lt_trans hhigh (by decide))
  have hlow' : 0x20 ≤ c.toUInt8 := UInt8.le_iff_toNat_le.mpr (hbyte ▸ hlow)
  have hhigh' : c.toUInt8 < 0x7f := UInt8.lt_iff_toNat_lt.mpr (hbyte ▸ hhigh)
  simp [HeaderValue.isShown, hlow', hhigh']

end IsUuidText

/-! ## Headers -/

namespace Headers

variable (headers : Headers) (name : String) (value : HeaderValue)

theorem sameName_self : sameName name name = true :=
  decide_eq_true rfl

theorem values_append (first second : Headers) :
    values (first ++ second) name = first.values name ++ second.values name := by
  simp only [values, List.filter_append, List.map_append]

theorem values_others : (headers.others name).values name = [] := by
  simp [values, others]

/-- A value that is inserted is the only one of its name, -/
theorem values_insert : (headers.insert name value).values name = [value] := by
  rw [insert, values_append, values_others]
  simp [values, sameName_self]

/-- and the headers of other names stay. -/
theorem others_insert : (headers.insert name value).others name = headers.others name := by
  simp [insert, others, sameName_self]

end Headers

/-! ## Ids -/

/-- The first value of the header for ids is this text, and it is not empty. -/
def Headers.GivesId (headers : Headers) (id : String) : Prop :=
  id ≠ "" ∧ ∃ value, headers.first? RequestId.header = some value ∧ value.text? = some id

/-- The id that a span records. -/
def Span.requestId? (span : Span) : Option String :=
  span.fields.lookup "request_id"

namespace RequestId

variable {fresh id : String} {headers : Headers}

theorem given?_eq_some_iff : given? headers = some id ↔ headers.GivesId id := by
  simp only [given?, Headers.GivesId, Option.filter_eq_some_iff, Option.bind_eq_some_iff,
    decide_eq_true_eq]
  exact and_comm

/-- Headers that give an id are kept. -/
theorem assign_of_givesId (h : headers.GivesId id) : assign fresh headers = (id, headers) := by
  rw [assign, given?_eq_some_iff.mpr h]

/-- Otherwise a new id takes the place of all that the header for ids had. -/
theorem exists_assign_eq_insert
    (hfresh : IsUuidText fresh) (hnone : ∀ given, ¬headers.GivesId given) :
    ∃ value, value.text? = some fresh ∧
      assign fresh headers = (fresh, headers.insert header value) := by
  obtain ⟨value, hvalue, htext⟩ := HeaderValue.exists_ofText?_eq_some hfresh.shown
  have hgiven : given? headers = none := by
    refine Option.eq_none_iff_forall_ne_some.mpr fun given hgiven => ?_
    exact hnone given (given?_eq_some_iff.mp hgiven)
  refine ⟨value, htext, ?_⟩
  rw [assign, hgiven, hvalue]

theorem givesId_insert {value : HeaderValue} (hid : id ≠ "") (htext : value.text? = some id) :
    (headers.insert header value).GivesId id := by
  refine ⟨hid, value, ?_, htext⟩
  rw [Headers.first?, Headers.values_insert]
  rfl

theorem requestId?_span (path id : String) : (span path id).requestId? = some id :=
  rfl

/-- A span around a service opens first, and hands the service the headers that it assigns. -/
theorem traced_of_assign_eq {α β : Type} {headers' : Headers} {request : HttpRequest β}
    (hassign : assign fresh request.headers = (id, headers'))
    (inner : HttpRequest β → List Span × α) :
    traced fresh inner request =
      (span request.target.path id :: (inner { request with headers := headers' }).1,
        (inner { request with headers := headers' }).2) := by
  rw [traced, hassign]

/-! ## Spans around a service -/

/-- What becomes of a request on its way through a span: the service behind it sees `seen`, and `id`
is recorded. -/
structure PassesOneId {β : Type} (fresh : String) (request seen : HttpRequest β) (id : String) :
    Prop where
  target : seen.target = request.target
  body : seen.body = request.body
  /-- The service sees the id. -/
  gives : seen.headers.GivesId id
  /-- A caller that gives an id has all headers kept. -/
  kept : ∀ given, request.headers.GivesId given → seen.headers = request.headers
  /-- For every other caller a new id is the only one, and the other headers are kept. -/
  replaced : (∀ given, ¬request.headers.GivesId given) →
    id = fresh ∧ (∃ value, seen.headers.values header = [value]) ∧
      seen.headers.others header = request.headers.others header
  /-- The span records the id. -/
  recorded : ∀ {α : Type} (inner : HttpRequest β → List Span × α), ∃ span,
    traced fresh inner request = (span :: (inner seen).1, (inner seen).2) ∧
      span.requestId? = some id
  /-- Two spans around the service record the same id. -/
  recordedTwice : ∀ {α : Type} (fresh' : String) (inner : HttpRequest β → List Span × α),
    ∃ outer second,
      traced fresh (traced fresh' inner) request =
          (outer :: second :: (inner seen).1, (inner seen).2) ∧
        outer.requestId? = some id ∧ second.requestId? = some id

variable {β : Type} {request : HttpRequest β}

/-- Spans record the id that they assign, if the headers that they assign give it. -/
theorem passesOneId_of_assign_eq {headers' : Headers}
    (hassign : assign fresh request.headers = (id, headers')) (hgives : headers'.GivesId id)
    (hkept : ∀ given, request.headers.GivesId given → headers' = request.headers)
    (hreplaced : (∀ given, ¬request.headers.GivesId given) →
      id = fresh ∧ (∃ value, headers'.values header = [value]) ∧
        headers'.others header = request.headers.others header) :
    PassesOneId fresh request { request with headers := headers' } id where
  target := rfl
  body := rfl
  gives := hgives
  kept := hkept
  replaced := hreplaced
  recorded inner :=
    ⟨span request.target.path id, traced_of_assign_eq hassign inner, requestId?_span _ id⟩
  recordedTwice fresh' inner := by
    refine ⟨span request.target.path id, span request.target.path id, ?_, requestId?_span _ id,
      requestId?_span _ id⟩
    rw [traced_of_assign_eq hassign, traced_of_assign_eq (assign_of_givesId hgives)]

/-- Every request passes one id to the service and to the spans around it. -/
theorem exists_passesOneId (hfresh : IsUuidText fresh) (request : HttpRequest β) :
    ∃ seen id, PassesOneId fresh request seen id := by
  by_cases hgiven : ∃ given, request.headers.GivesId given
  · obtain ⟨given, hgiven⟩ := hgiven
    refine ⟨_, given, passesOneId_of_assign_eq (assign_of_givesId hgiven) hgiven ?_ ?_⟩
    · exact fun _ _ => rfl
    · exact fun hnone => absurd hgiven (hnone given)
  · have hnone : ∀ given, ¬request.headers.GivesId given := not_exists.mp hgiven
    obtain ⟨value, htext, hassign⟩ := exists_assign_eq_insert hfresh hnone
    refine ⟨_, fresh, passesOneId_of_assign_eq hassign (givesId_insert hfresh.ne_empty htext) ?_ ?_⟩
    · exact fun given hgiven => absurd hgiven (hnone given)
    · intro _
      exact ⟨rfl, ⟨value, Headers.values_insert request.headers header value⟩,
        Headers.others_insert request.headers header value⟩

/-- A first id that cannot be shown makes way for a new one, and so does the id behind it. -/
theorem exists_passesOneId_unreadable :
    let fresh := "6f9619ff-8b86-4d01-b42d-00cf4fc964ff"
    let agent : String × HeaderValue := ("user-agent", ⟨[0x74], by decide⟩)
    let request : HttpRequest Unit :=
      ⟨.origin "/a", [("X-Request-Id", ⟨[0xd0, 0xba], by decide⟩), agent,
        ("x-request-id", ⟨[0x61], by decide⟩)], ()⟩
    IsUuidText fresh ∧ ∃ seen, PassesOneId fresh request seen fresh ∧
      seen.headers.others header = [agent] := by
  intro fresh agent request
  have hdigits : (fresh.toList.all fun c => c = '-' || isHexDigit c) = true := by decide
  have hfresh : IsUuidText fresh := by
    refine ⟨by decide, fun c hc => ?_⟩
    simpa using List.all_eq_true.mp hdigits c hc
  have hgiven : given? request.headers = none := by decide
  have hnone (given : String) : ¬request.headers.GivesId given := by
    intro h
    cases hgiven.symm.trans (given?_eq_some_iff.mpr h)
  obtain ⟨seen, id, hpasses⟩ := exists_passesOneId hfresh request
  obtain ⟨rfl, -, hothers⟩ := hpasses.replaced hnone
  exact ⟨hfresh, seen, hpasses, hothers.trans (by decide)⟩

end RequestId

end InfobaseGateway

import DcimBackend.Collectors.Security
import DcimBackend.Library.Fallible
import DcimBackend.Library.Run
import DcimBackend.Library.XmlNames
import DcimBackend.Library.XmlRoundTrip
import DcimBackend.Notifications.Phone

/-!
# The SMS gateway

`apps/notifications/services/sms.py`: the request that goes to the bank's SOAP service, what its
answer is taken for, and the three backends.

There are two readers of XML here.  One is the service's, of the requests: it reads a document in
UTF-8 as the recommendation says, and `readSmsRequest_build` says what it makes of a request.  The
other one is `ET.fromstring`, of the answers.  It knows document types, processing instructions and
many encodings, so it is a parameter, an `XmlParser`.  Only one thing is relied on, that the names of
its elements are names of XML, and the first reader is an instance.

An answer is taken for a success if it has the right text under one of two names, in any namespace
and at any depth, and of several elements of a name the first one counts.  `tellsSuccess_of_accepted`
says what such an answer tells.
-/

namespace DcimBackend

open Library Library.Xml

/-! ### The request -/

/-- The arguments of `_build_sms_soap_envelope`. -/
structure SmsRequest where
  phone : String
  message : String
  smsType : String
  userId : String
  password : String
deriving DecidableEq

def soapSpace : List Char := "http://schemas.xmlsoap.org/soap/envelope/".toList

def bankSpace : List Char := "http://dhakabank.com.bd/".toList

/-- A tag of the bank. -/
def bankTag (name : String) : QName := ⟨bankSpace, name.toList⟩

/-- What `ET.register_namespace` registers, in the order of the prefixes. -/
def registeredPrefixes : Prefixes where
  bindings := [([], bankSpace), ("soap".toList, soapSpace),
    ("xsd".toList, "http://www.w3.org/2001/XMLSchema".toList),
    ("xsi".toList, "http://www.w3.org/2001/XMLSchema-instance".toList)]
  sorted := by decide
  allowed := by decide

namespace SmsRequest

variable (r : SmsRequest)

/-- The elements of a request, with their texts. -/
def fields : List (String × String) :=
  [("mobileNumber", r.phone), ("smsText", r.message), ("smsType", r.smsType),
    ("userId", r.userId), ("password", r.password)]

/-- `ET.SubElement(request, name).text = text`, for one field after the other. -/
def subElements (fields : List (String × String)) : Content :=
  fields.foldr (fun field after => .element [] (bankTag field.1) (.text field.2.toList) after)
    (.text [])

/-- The tree of a request. -/
def envelope : Element :=
  ⟨⟨soapSpace, "Envelope".toList⟩, .element [] ⟨soapSpace, "Body".toList⟩
    (.element [] (bankTag "DoSendSms") (subElements r.fields) (.text [])) (.text [])⟩

/-- `_build_sms_soap_envelope`. -/
def buildSmsSoapEnvelope : ByteArray :=
  (String.ofList (r.envelope.document registeredPrefixes)).toUTF8

/-- The request with every end of a line a line feed. -/
def withLineFeeds : SmsRequest where
  phone := String.ofList (newlines r.phone.toList)
  message := String.ofList (newlines r.message.toList)
  smsType := String.ofList (newlines r.smsType.toList)
  userId := String.ofList (newlines r.userId.toList)
  password := String.ofList (newlines r.password.toList)

/-- The texts have only characters that XML has. -/
def isXml : Bool := r.fields.all fun field => field.2.toList.all isXmlChar

end SmsRequest

/-! ### Reading -/

/-- The root of a document in UTF-8, behind a byte order mark or not. -/
def readUtf8 (content : ByteArray) : Option Element :=
  (String.fromUTF8? content).bind fun text =>
    read (if text.toList.head? = some '\uFEFF' then text.toList.tail else text.toList)

/-- The text of the first element of the bank with a name. -/
def bankText (root : Element) (name : String) : Option String :=
  (root.iter.find? fun e => e.tag = bankTag name).map fun e => String.ofList e.content.lead

/-- What a service reads of a request. -/
def readSmsRequest (content : ByteArray) : Option SmsRequest := do
  let root ← readUtf8 content
  let phone ← bankText root "mobileNumber"
  let message ← bankText root "smsText"
  let smsType ← bankText root "smsType"
  let userId ← bankText root "userId"
  let password ← bankText root "password"
  return { phone, message, smsType, userId, password }

/-- Why a parser refuses a document. -/
inductive XmlError
  | parseError
  | other (text : String)

/-- `ET.fromstring`. -/
structure XmlParser where
  fromString : ByteArray → Except XmlError Element
  isNcName : ∀ {content root e}, fromString content = .ok root → e ∈ root.iter →
    isNcName e.tag.localName

/-- A parser that knows UTF-8 only, and no document types. -/
def utf8Parser : XmlParser where
  fromString content := (readUtf8 content).elim (.error .parseError) .ok
  isNcName {content root e} h he := by
    cases hread : readUtf8 content with
    | none =>
        rw [hread] at h
        cases h
    | some found =>
        rw [hread] at h
        cases h
        obtain ⟨text, -, hroot⟩ := Option.bind_eq_some_iff.mp hread
        exact isNcName_of_read hroot he

/-- A tag as `ElementTree` has it, `{namespace}name`. -/
def clarkName (tag : QName) : List Char :=
  if tag.space = [] then tag.localName else '{' :: (tag.space ++ '}' :: tag.localName)

/-- `_soap_local_name`: what stands behind the last closing brace. -/
def soapLocalName (e : Element) : String :=
  String.ofList ((clarkName e.tag).reverse.takeWhile (· ≠ '}')).reverse

/-- `_find_soap_text`. -/
def findSoapText (root : Element) (localName : String) : String :=
  (root.iter.find? fun e => soapLocalName e = localName).elim "" fun e =>
    pyStrip (String.ofList e.content.lead)

/-- The dictionary of `_parse_soap_delivery_response`. -/
structure SoapDelivery where
  statusId : String
  status : String
  smsCsmsId : String
  smsRefNo : String

/-- `_parse_soap_delivery_response`, with the text of its `ValueError`, or of another exception of
the parser. -/
def parseSoapDeliveryResponse (parser : XmlParser) (content : ByteArray) :
    Except String SoapDelivery :=
  match parser.fromString content with
  | .error .parseError => .error "Invalid SMS gateway response."
  | .error (.other text) => .error text
  | .ok root =>
      .ok
        { statusId := findSoapText root "StatusId"
          status := findSoapText root "Status"
          smsCsmsId := findSoapText root "SmsCsmsId"
          smsRefNo := findSoapText root "SmsRefNo" }

/-! ### HTTP -/

/-- The body of a request: what is given as `json`, or as `data`. -/
inductive HttpBody
  | json (payload : Dict)
  | data (content : ByteArray)

/-- The arguments of `requests.post`. -/
structure HttpRequest where
  url : String
  headers : List (String × String)
  body : HttpBody
  timeout : ℤ

/-- A response, as far as it is looked at. -/
structure HttpResponse where
  statusCode : ℕ
  reason : String
  url : String
  content : ByteArray

/-- `Response.raise_for_status`. -/
def HttpResponse.raiseForStatus (response : HttpResponse) : Except String Unit :=
  let behind := " Error: " ++ response.reason ++ " for url: " ++ response.url
  if 400 ≤ response.statusCode ∧ response.statusCode < 500 then
    .error (toString response.statusCode ++ " Client" ++ behind)
  else if 500 ≤ response.statusCode ∧ response.statusCode < 600 then
    .error (toString response.statusCode ++ " Server" ++ behind)
  else .ok ()

/-- `requests.post`, in a world that it changes: a response, or the text of an exception. -/
abbrev HttpPost (σ : Type*) := HttpRequest → σ → Except String HttpResponse × σ

/-! ### Sending -/

/-- The settings, with their defaults. -/
structure SmsSettings where
  backend : String := "console"
  apiUrl : String := ""
  apiKey : String := ""
  defaultSender : String := "DCIM"
  timeoutSeconds : ℤ := 15
  soapServiceUrl : String := "https://uatapi.dhakabank.com.bd/DBLSmsServices/SmsServices.asmx"
  soapUserId : String := ""
  soapPassword : String := ""
  soapSmsType : String := "E"

/-- The settings, `str.lower`, `str.upper` and the parser. -/
structure SmsEnv where
  settings : SmsSettings
  lower : String → String
  upper : String → String
  upper_empty : upper "" = ""
  parser : XmlParser

namespace SmsEnv

variable (env : SmsEnv)

/-- Where the SOAP service is. -/
def serviceUrl : String :=
  if env.settings.soapServiceUrl = "" then env.settings.apiUrl else env.settings.soapServiceUrl

/-- The type of a text message. -/
def smsType : String :=
  env.upper (pyStrip (if env.settings.soapSmsType = "" then "E" else env.settings.soapSmsType))

/-- The request that `_send_soap_sms` builds, or the text of its `ValueError`. -/
def smsRequest (phone message : String) : Except String SmsRequest :=
  if env.serviceUrl = "" then .error "SMS_SOAP_SERVICE_URL is not configured"
  else if env.settings.soapUserId = "" then .error "SMS_SOAP_USER_ID is not configured"
  else if env.settings.soapPassword = "" then .error "SMS_SOAP_PASSWORD is not configured"
  else if env.smsType ≠ "E" ∧ env.smsType ≠ "B" then
    .error "SMS_SOAP_SMS_TYPE must be either 'E' or 'B'"
  else
    (normalizeBangladeshMobile phone).map fun normalizedPhone =>
      { phone := normalizedPhone
        message := message
        smsType := env.smsType
        userId := env.settings.soapUserId
        password := env.settings.soapPassword }

/-- How `_send_soap_sms` posts a request. -/
def soapPost (r : SmsRequest) : HttpRequest where
  url := env.serviceUrl
  headers := [("Content-Type", "text/xml; charset=utf-8"),
    ("SOAPAction", "\"http://dhakabank.com.bd/DoSendSms\"")]
  body := .data r.buildSmsSoapEnvelope
  timeout := env.settings.timeoutSeconds

/-- An answer that is no success. -/
def isRejection (d : SoapDelivery) : Bool :=
  d.statusId ≠ "1" && env.upper d.status ∉ ["SUCCESSFULL", "SUCCESSFUL"]

/-- The delivery that an answer stands for: not an error of HTTP, and no rejection. -/
def acceptedDelivery (response : HttpResponse) : Except String SoapDelivery := do
  response.raiseForStatus
  let d ← parseSoapDeliveryResponse env.parser response.content
  if env.isRejection d then
    .error ("SMS gateway rejected the message: " ++
      if d.status ≠ "" then d.status else if d.statusId ≠ "" then d.statusId else "FAILED")
  else return d

/-- What `_send_soap_sms` returns. -/
def soapResult (r : SmsRequest) (d : SoapDelivery) : Dict :=
  [("backend", .scalar (.text "soap")), ("phone", .scalar (.text r.phone)),
    ("service_url", .scalar (.text env.serviceUrl)), ("status_id", .scalar (.text d.statusId)),
    ("status", .scalar (.text d.status)), ("sms_csms_id", .scalar (.text d.smsCsmsId)),
    ("sms_ref_no", .scalar (.text d.smsRefNo))]

variable {σ : Type*} (post : HttpPost σ) (phone message : String) (s : σ)

/-- `_send_soap_sms`. -/
def sendSoapSms : Except String Dict × σ :=
  match env.smsRequest phone message with
  | .error error => (.error error, s)
  | .ok r =>
      let answer := post (env.soapPost r) s
      (answer.1.bind fun response => (env.acceptedDelivery response).map (env.soapResult r),
        answer.2)

/-- How `_send_http_sms` posts a message. -/
def httpPost : HttpRequest where
  url := env.settings.apiUrl
  headers :=
    if env.settings.apiKey = "" then []
    else [("Authorization", "Bearer " ++ env.settings.apiKey), ("X-API-Key", env.settings.apiKey)]
  body := .json [("sender", .scalar (.text env.settings.defaultSender)),
    ("to", .scalar (.text phone)), ("message", .scalar (.text message))]
  timeout := env.settings.timeoutSeconds

/-- `_send_http_sms`, and what `send_sms_message` returns of it. -/
def sendHttpSms : Except String Dict × σ :=
  if env.settings.apiUrl = "" then (.error "SMS_API_URL is not configured", s)
  else
    let answer := post (env.httpPost phone message) s
    (answer.1.bind fun response => response.raiseForStatus.map fun _ =>
        [("backend", .scalar (.text "http")), ("phone", .scalar (.text phone)),
          ("status_code", .scalar (.int response.statusCode))],
      answer.2)

/-- `send_sms_message`.  The console is a log. -/
def sendSmsMessage : Except String Dict × σ :=
  let backend := env.lower (pyStrip env.settings.backend)
  if backend = "console" then
    (.ok [("backend", .scalar (.text "console")), ("phone", .scalar (.text phone))], s)
  else if backend = "http" then env.sendHttpSms post phone message s
  else if backend = "soap" then env.sendSoapSms post phone message s
  else (.error ("Unsupported SMS_BACKEND: " ++ backend), s)

end SmsEnv

/-! ### What an answer tells -/

/-- The text at the beginning of an element, without the blanks around it. -/
def elementText (e : Element) : String := pyStrip (String.ofList e.content.lead)

/-- A document tells that a message has been taken: somewhere in it is a `StatusId` that is 1, or a
`Status` that is `successful`, or its misspelling, in capitals or not. -/
def SmsEnv.TellsSuccess (env : SmsEnv) (root : Element) : Prop :=
  ∃ e ∈ root.iter,
    e.tag.localName = "StatusId".toList ∧ elementText e = "1" ∨
      e.tag.localName = "Status".toList ∧
        env.upper (elementText e) ∈ ["SUCCESSFULL", "SUCCESSFUL"]

/-- The local name of an element with a name of XML. -/
theorem soapLocalName_eq {e : Element} (hname : isNcName e.tag.localName) :
    soapLocalName e = String.ofList e.tag.localName := by
  have hplain : ∀ c ∈ e.tag.localName.reverse, decide (c ≠ '}') = true := by
    intro c hc
    refine decide_eq_true fun heq => brace_notMem_of_isNcName hname ?_
    exact heq ▸ List.mem_reverse.mp hc
  unfold soapLocalName clarkName
  congr 1
  split
  · rw [List.takeWhile_eq_self_iff.mpr hplain, List.reverse_reverse]
  · -- The name stands behind the brace that closes the namespace.
    rw [List.reverse_cons, List.reverse_append, List.reverse_cons, List.append_assoc,
      List.append_assoc, List.takeWhile_append_of_pos fun c hc => hplain c hc]
    simp

/-- A text that is found is that of an element with the name. -/
theorem exists_of_findSoapText {root : Element} {name : String}
    (hnames : ∀ e ∈ root.iter, isNcName e.tag.localName) (h : findSoapText root name ≠ "") :
    ∃ e ∈ root.iter, e.tag.localName = name.toList ∧ elementText e = findSoapText root name := by
  unfold findSoapText at h ⊢
  cases hfound : root.iter.find? fun e => soapLocalName e = name with
  | none =>
      rw [hfound] at h
      exact absurd rfl h
  | some e =>
      have he := List.mem_of_find?_eq_some hfound
      have hp := List.find?_some hfound
      have hlocal : soapLocalName e = name := of_decide_eq_true hp
      rw [soapLocalName_eq (hnames e he)] at hlocal
      exact ⟨e, he, by rw [← hlocal, String.toList_ofList], rfl⟩

/-- **What is taken for a success**: an answer that is no error of HTTP, and tells of success. -/
theorem SmsEnv.tellsSuccess_of_accepted {env : SmsEnv} {response : HttpResponse} {d : SoapDelivery}
    (h : env.acceptedDelivery response = .ok d) :
    ¬(400 ≤ response.statusCode ∧ response.statusCode < 600) ∧
      ∃ root, env.parser.fromString response.content = .ok root ∧ env.TellsSuccess root := by
  unfold acceptedDelivery at h
  obtain ⟨_, hstatus, h⟩ := bind_eq_ok_iff.mp h
  obtain ⟨parsed, hparse, h⟩ := bind_eq_ok_iff.mp h
  constructor
  · rintro ⟨hlow, hhigh⟩
    unfold HttpResponse.raiseForStatus at hstatus
    dsimp only at hstatus
    split at hstatus
    · cases hstatus
    split at hstatus
    · cases hstatus
    · omega
  unfold parseSoapDeliveryResponse at hparse
  split at hparse
  · cases hparse
  · cases hparse
  rename_i root hroot
  obtain rfl := Except.ok.inj hparse
  refine ⟨root, hroot, ?_⟩
  have hnames : ∀ e ∈ root.iter, isNcName e.tag.localName :=
    fun e he => env.parser.isNcName hroot he
  split at h
  · cases h
  rename_i haccepted
  unfold isRejection at haccepted
  dsimp only at haccepted
  by_cases hid : findSoapText root "StatusId" = "1"
  · have hne : findSoapText root "StatusId" ≠ "" := by
      rw [hid]
      decide
    obtain ⟨e, he, hlocal, htext⟩ := exists_of_findSoapText hnames hne
    exact ⟨e, he, Or.inl ⟨hlocal, htext.trans hid⟩⟩
  · have hstatus : env.upper (findSoapText root "Status") ∈ ["SUCCESSFULL", "SUCCESSFUL"] := by
      by_contra hnot
      exact haccepted (Bool.and_eq_true_iff.mpr ⟨decide_eq_true hid, decide_eq_true hnot⟩)
    have hne : findSoapText root "Status" ≠ "" := by
      intro hempty
      rw [hempty, env.upper_empty] at hstatus
      revert hstatus
      decide
    obtain ⟨e, he, hlocal, htext⟩ := exists_of_findSoapText hnames hne
    exact ⟨e, he, Or.inr ⟨hlocal, htext.symm ▸ hstatus⟩⟩

/-! ### What the service reads -/

namespace SmsRequest

variable (r : SmsRequest)

theorem covers_envelope : ∀ tag ∈ r.envelope.tags, registeredPrefixes.Covers tag := by
  show ∀ tag ∈ [⟨soapSpace, "Envelope".toList⟩, ⟨soapSpace, "Body".toList⟩, bankTag "DoSendSms",
    bankTag "mobileNumber", bankTag "smsText", bankTag "smsType", bankTag "userId",
    bankTag "password"], registeredPrefixes.Covers tag
  decide

theorem all_texts_envelope : r.envelope.texts.all (·.all isXmlChar) = r.isXml := by
  simp [envelope, Element.texts, Content.texts, subElements, fields, isXml]

theorem map_envelope : r.envelope.map newlines = r.withLineFeeds.envelope := by
  simp [envelope, Element.map, Content.map, subElements, fields, withLineFeeds, newlines]

/-- The tree that a service reads. -/
theorem readUtf8_build :
    readUtf8 r.buildSmsSoapEnvelope = if r.isXml then some r.withLineFeeds.envelope else none := by
  unfold readUtf8 buildSmsSoapEnvelope
  rw [Collectors.fromUTF8?_eq_some_iff.mpr rfl, Option.bind_some, String.toList_ofList]
  have hhead : (r.envelope.document registeredPrefixes).head? = some '<' := rfl
  rw [hhead, if_neg (by decide), read_document r.covers_envelope, all_texts_envelope, map_envelope]

/-- The fields of a tree. -/
theorem bankText_envelope : ∀ field ∈ r.fields, bankText r.envelope field.1 = some field.2 := by
  simp [fields, bankText, envelope, Element.iter, Element.within, subElements, bankTag, List.find?,
    Content.lead]

/-- **What a service reads of a request** that has been built: its texts, with every end of a line
a line feed, unless one has a character that XML has not. -/
theorem readSmsRequest_build :
    readSmsRequest r.buildSmsSoapEnvelope = if r.isXml then some r.withLineFeeds else none := by
  unfold readSmsRequest
  rw [readUtf8_build]
  split
  · have htexts := r.withLineFeeds.bankText_envelope
    simp only [fields, List.forall_mem_cons, List.not_mem_nil, IsEmpty.forall_iff, implies_true,
      and_true] at htexts
    obtain ⟨hphone, hmessage, htype, huser, hpassword⟩ := htexts
    show (bankText r.withLineFeeds.envelope "mobileNumber").bind _ = _
    simp [hphone, hmessage, htype, huser, hpassword]
  · rfl

/-- The tree determines the request. -/
theorem envelope_injective : Function.Injective envelope := by
  intro r q h
  cases r
  cases q
  simpa [envelope, subElements, fields, String.toList_inj] using h

/-- What holds of the texts of a tree, if it holds of an empty text. -/
theorem forall_texts_envelope {P : List Char → Prop} (hempty : P []) :
    (∀ text ∈ r.envelope.texts, P text) ↔ ∀ field ∈ r.fields, P field.2.toList := by
  simp [envelope, Element.texts, Content.texts, subElements, fields, hempty]

/-- **The round trip of a request**: the service reads the texts as they are exactly if they have
only characters of XML, and no carriage return. -/
theorem readSmsRequest_eq_some_iff :
    readSmsRequest r.buildSmsSoapEnvelope = some r ↔
      ∀ field ∈ r.fields, ∀ c ∈ field.2.toList, isXmlChar c ∧ c ≠ '\r' := by
  have hread : readSmsRequest r.buildSmsSoapEnvelope = some r ↔
      read (r.envelope.document registeredPrefixes) = some r.envelope := by
    rw [readSmsRequest_build, read_document r.covers_envelope, all_texts_envelope, map_envelope]
    split
    · rw [Option.some_inj, Option.some_inj, envelope_injective.eq_iff]
    · exact iff_of_false (Option.some_ne_none _).symm (Option.some_ne_none _).symm
  rw [hread, read_document_eq_some_iff r.covers_envelope]
  exact r.forall_texts_envelope (by simp)

end SmsRequest

end DcimBackend

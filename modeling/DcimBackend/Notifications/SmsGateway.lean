import DcimBackend.Library.Balance
import DcimBackend.Notifications.Delivery
import DcimBackend.Notifications.Sms

/-!
# Text messages over a network that loses them

Sends of `send_sms_message` to a SOAP service, with a network in between that may lose a request,
or the answer to one.  The service is any that is honest, in its own terms: its answer tells of
success only if it has read a request and kept it.  What it does not tell clearly, or under an error
of HTTP, it may answer to anything.

`IsReadAs` says what is asked of a request that the service has kept: it has the message of a call
and the number of its phone, and the credentials, as far as XML carries them.

`sends_arrive` is about a run of sends.  A call may be reported as failed although its message has
arrived, when the answer is lost; the other way round it may not.

Nothing is said of how the service is built.  `Honest` speaks of the documents that it answers
with and of what it keeps, by the reading that any receiver of XML has, and of no function of the
code; so the result is about what the code makes of answers, and about the requests that it
builds.
-/

namespace DcimBackend

open Library

/-- What the network does to a call. -/
inductive Network
  | requestLost (error : String)
  | replyLost (error : String)
  | reliable

/-- The request reaches the service. -/
def Network.reaches : Network → Bool
  | .requestLost _ => false
  | .replyLost _ => true
  | .reliable => true

/-- What a service reads of the body of a request. -/
def HttpRequest.smsRequest (request : HttpRequest) : Option SmsRequest :=
  match request.body with
  | .data content => readSmsRequest content
  | .json _ => none

/-- A service, with the requests that it has kept: which one it keeps, of those that it can read,
and what it answers. -/
structure SmsService where
  keeps : List SmsRequest → SmsRequest → Bool
  answers : List SmsRequest → Option SmsRequest → HttpResponse

namespace SmsService

variable (service : SmsService)

/-- What the service has behind a request: that request, if it keeps it. -/
def received (inbox : List SmsRequest) (request : HttpRequest) : List SmsRequest :=
  (request.smsRequest.filter (service.keeps inbox)).toList

/-- `requests.post`, over the network. -/
def post (network : Network) : HttpPost (List SmsRequest) := fun request inbox =>
  match network with
  | .requestLost error => (.error error, inbox)
  | .replyLost error => (.error error, inbox ++ service.received inbox request)
  | .reliable =>
      (.ok (service.answers inbox request.smsRequest), inbox ++ service.received inbox request)

/-- The service tells of success only when it keeps the request. -/
def Honest (env : SmsEnv) : Prop :=
  ∀ inbox request root,
    ¬(400 ≤ (service.answers inbox request).statusCode ∧
      (service.answers inbox request).statusCode < 600) →
    env.parser.fromString (service.answers inbox request).content = .ok root →
    env.TellsSuccess root → ∃ r, request = some r ∧ service.keeps inbox r

end SmsService

/-- A call of `send_sms_message`. -/
structure SmsCall where
  phone : String
  message : String
  network : Network

/-- A text with every end of a line a line feed. -/
def lineFeeds (text : String) : String := String.ofList (Xml.newlines text.toList)

/-- A request that a service has read is that of a call. -/
structure SmsCall.IsReadAs (env : SmsEnv) (call : SmsCall) (r : SmsRequest) : Prop where
  phone : IsNumberOf r.phone call.phone
  message : r.message = lineFeeds call.message
  smsType : r.smsType ∈ ["E", "B"]
  userId : r.userId = lineFeeds env.settings.soapUserId
  password : r.password = lineFeeds env.settings.soapPassword

/-- What the service has kept, and the calls that have returned. -/
structure SmsWorld where
  inbox : List SmsRequest := []
  reported : List SmsCall := []

namespace SmsWorld

variable (env : SmsEnv) (service : SmsService) (s : SmsWorld) (call : SmsCall)

/-- What the call returns, and what the service has then. -/
def sent : Except String Dict × List SmsRequest :=
  env.sendSmsMessage (service.post call.network) call.phone call.message s.inbox

/-- A call that returns is reported as sent. -/
def confirmed : List SmsCall :=
  if (s.sent env service call).1.toOption.isSome then [call] else []

/-- What the call brings to the service. -/
def added : List SmsRequest := (s.sent env service call).2.drop s.inbox.length

/-- A call that brings something to the service. -/
def arrived : List SmsCall := if s.added env service call = [] then [] else [call]

/-- A call. -/
def step (s : SmsWorld) (call : SmsCall) : SmsWorld where
  inbox := (s.sent env service call).2
  reported := s.reported ++ s.confirmed env service call

variable {env service s call}

/-- The digits of a number are no end of a line. -/
theorem lineFeeds_of_isNumberOf {number phone : String} (h : IsNumberOf number phone) :
    lineFeeds number = number := by
  have hdigits : ∀ c ∈ number.toList, c ∈ phoneDigits phone := by
    intro c hc
    rcases h.digits with heq | heq
    · exact heq ▸ hc
    · exact heq ▸ List.mem_append_right _ hc
  have hplain : '\r' ∉ number.toList := by
    intro hmem
    have hdigit := (List.mem_filter.mp (hdigits _ hmem)).2
    revert hdigit
    decide
  have happend := @Xml.newlines_append_of_not_mem _ [] hplain
  rw [List.append_nil] at happend
  unfold lineFeeds
  rw [happend]
  show String.ofList (number.toList ++ []) = number
  rw [List.append_nil, String.ofList_toList]

/-- The request of a call, as a service reads it. -/
theorem isReadAs_withLineFeeds {r : SmsRequest}
    (hr : env.smsRequest call.phone call.message = .ok r) :
    call.IsReadAs env r.withLineFeeds := by
  unfold SmsEnv.smsRequest at hr
  split_ifs at hr with _ _ _ htype
  cases hphone : normalizeBangladeshMobile call.phone with
  | error error =>
      rw [hphone] at hr
      cases hr
  | ok normalizedPhone =>
      rw [hphone] at hr
      obtain rfl := Except.ok.inj hr
      have hnumber := isNumberOf_of_normalizes hphone
      refine ⟨?_, rfl, ?_, rfl, rfl⟩
      · show IsNumberOf (lineFeeds normalizedPhone) call.phone
        rwa [lineFeeds_of_isNumberOf hnumber]
      · show lineFeeds env.smsType ∈ ["E", "B"]
        rcases not_and_or.mp htype with htype | htype
        · rw [not_not.mp htype]
          decide
        · rw [not_not.mp htype]
          decide

/-- What a service receives of a request. -/
theorem received_soapPost (inbox : List SmsRequest) (r : SmsRequest) :
    (∃ q, (env.soapPost r).smsRequest = some q ∧ q = r.withLineFeeds ∧
      service.received inbox (env.soapPost r) = if service.keeps inbox q then [q] else []) ∨
      (env.soapPost r).smsRequest = none ∧ service.received inbox (env.soapPost r) = [] := by
  have hread : (env.soapPost r).smsRequest = if r.isXml then some r.withLineFeeds else none :=
    r.readSmsRequest_build
  unfold SmsService.received
  rw [hread]
  split
  · refine Or.inl ⟨_, rfl, rfl, ?_⟩
    rw [Option.filter_some]
    split
    · rfl
    · rfl
  · exact Or.inr ⟨rfl, rfl⟩

/-- What is received is read as the call, and kept if the answer tells of success. -/
theorem received_spec (hhonest : service.Honest env) {inbox : List SmsRequest} {r : SmsRequest}
    (hr : env.smsRequest call.phone call.message = .ok r) :
    ∃ q? : Option SmsRequest, service.received inbox (env.soapPost r) = q?.toList ∧
      (∀ q ∈ q?, call.IsReadAs env q) ∧
      ∀ d, env.acceptedDelivery (service.answers inbox (env.soapPost r).smsRequest) = .ok d →
        q? ≠ none := by
  rcases received_soapPost inbox r with ⟨q, hq, rfl, hreceived⟩ | ⟨hq, hreceived⟩
  · rw [hreceived, hq]
    by_cases hkeeps : service.keeps inbox r.withLineFeeds
    · refine ⟨some r.withLineFeeds, if_pos hkeeps, ?_, fun _ _ => Option.some_ne_none _⟩
      intro q hmem
      rw [← Option.some.inj hmem]
      exact isReadAs_withLineFeeds hr
    · refine ⟨none, if_neg hkeeps, fun q hmem => (Option.some_ne_none q hmem.symm).elim, ?_⟩
      intro d haccepted
      obtain ⟨hstatus, root, hroot, htells⟩ := SmsEnv.tellsSuccess_of_accepted haccepted
      obtain ⟨kept, hkept, hkeepsIt⟩ := hhonest inbox _ root hstatus hroot htells
      cases hkept
      exact absurd hkeepsIt hkeeps
  · rw [hreceived, hq]
    refine ⟨none, rfl, fun q hmem => (Option.some_ne_none q hmem.symm).elim, ?_⟩
    intro d haccepted
    obtain ⟨hstatus, root, hroot, htells⟩ := SmsEnv.tellsSuccess_of_accepted haccepted
    obtain ⟨kept, hkept, -⟩ := hhonest inbox _ root hstatus hroot htells
    cases hkept

/-- With the SOAP backend, a message is sent to the SOAP service. -/
theorem sent_eq (hsoap : env.lower (pyStrip env.settings.backend) = "soap") :
    s.sent env service call =
      env.sendSoapSms (service.post call.network) call.phone call.message s.inbox := by
  unfold sent SmsEnv.sendSmsMessage
  dsimp only
  rw [hsoap, if_neg (by decide), if_neg (by decide), if_pos rfl]

/-- **What a call does**: it brings at most one request to the service, which is read as that of
the call, and it does so if it returns. -/
theorem sent_spec (hsoap : env.lower (pyStrip env.settings.backend) = "soap")
    (hhonest : service.Honest env) :
    ∃ q? : Option SmsRequest, (s.sent env service call).2 = s.inbox ++ q?.toList ∧
      (∀ q ∈ q?, call.IsReadAs env q) ∧
      ((s.sent env service call).1.toOption.isSome → q? ≠ none) := by
  have hnothing : ∀ q ∈ (none : Option SmsRequest), call.IsReadAs env q :=
    fun q hmem => (Option.some_ne_none q hmem.symm).elim
  rw [sent_eq hsoap]
  unfold SmsEnv.sendSoapSms
  cases hr : env.smsRequest call.phone call.message with
  | error error => exact ⟨none, (List.append_nil _).symm, hnothing, fun hok => by cases hok⟩
  | ok r =>
      dsimp only
      obtain ⟨q?, hreceived, hread, haccepts⟩ := @received_spec _ _ _ hhonest s.inbox r hr
      cases call.network with
      | requestLost error =>
          exact ⟨none, (List.append_nil _).symm, hnothing, fun hok => by cases hok⟩
      | replyLost error =>
          exact ⟨q?, congrArg (s.inbox ++ ·) hreceived, hread, fun hok => by cases hok⟩
      | reliable =>
          refine ⟨q?, congrArg (s.inbox ++ ·) hreceived, hread, fun hok => ?_⟩
          cases haccept : env.acceptedDelivery
              (service.answers s.inbox (env.soapPost r).smsRequest) with
          | error error =>
              have hanswer : (Except.map (env.soapResult r) (env.acceptedDelivery
                (service.answers s.inbox (env.soapPost r).smsRequest))).toOption.isSome := hok
              rw [haccept] at hanswer
              cases hanswer
          | ok d => exact haccepts d haccept

section Steps

variable (hsoap : env.lower (pyStrip env.settings.backend) = "soap")
  (hhonest : service.Honest env) (s : SmsWorld) (call : SmsCall)

include hsoap hhonest

theorem inbox_step :
    (step env service s call).inbox = s.inbox ++ s.added env service call := by
  obtain ⟨q?, hinbox, -, -⟩ := @sent_spec env service s call hsoap hhonest
  show (s.sent env service call).2 = s.inbox ++ (s.sent env service call).2.drop s.inbox.length
  rw [hinbox, List.drop_left]

/-- What a call brings is read as that of the call. -/
theorem added_readAs : List.Forall₂ (fun r call => call.IsReadAs env r)
    (s.added env service call) (s.arrived env service call) := by
  obtain ⟨q?, hinbox, hread, -⟩ := @sent_spec env service s call hsoap hhonest
  have hadded : s.added env service call = q?.toList := by
    unfold added
    rw [hinbox, List.drop_left]
  unfold arrived
  rw [hadded]
  cases q? with
  | none => exact .nil
  | some q => exact .cons (hread q rfl) .nil

/-- What is reported as sent has arrived. -/
theorem confirmed_sublist :
    (s.confirmed env service call).Sublist (s.arrived env service call) := by
  obtain ⟨q?, hinbox, -, hok⟩ := @sent_spec env service s call hsoap hhonest
  unfold confirmed
  split
  · rename_i hreturns
    obtain ⟨q, rfl⟩ := Option.ne_none_iff_exists'.mp (hok hreturns)
    have hadded : s.added env service call ≠ [] := by
      unfold added
      rw [hinbox, List.drop_left]
      exact List.cons_ne_nil _ _
    unfold arrived
    rw [if_neg hadded]
  · exact List.nil_sublist _

end Steps

theorem arrived_sublist : (s.arrived env service call).Sublist [call] := by
  unfold arrived
  split
  · exact List.nil_sublist _
  · exact List.Sublist.refl _

/-- **Every message that is reported as sent has arrived**: over a run of calls, what arrives is read
as the requests of some of the calls, in their order, and the calls that return are some of these. -/
theorem sends_arrive (hsoap : env.lower (pyStrip env.settings.backend) = "soap")
    (hhonest : service.Honest env) (s : SmsWorld) (w : List SmsCall) :
    ∃ kept arrived reported,
      (run (step env service) s w).inbox = s.inbox ++ kept ∧
      (run (step env service) s w).reported = s.reported ++ reported ∧
      List.Forall₂ (fun r call => call.IsReadAs env r) kept arrived ∧
      reported.Sublist arrived ∧ arrived.Sublist w := by
  refine ⟨collected (step env service) (fun s call => s.added env service call) s w,
    collected (step env service) (fun s call => s.arrived env service call) s w,
    collected (step env service) (fun s call => s.confirmed env service call) s w,
    ?_, ?_, ?_, ?_, ?_⟩
  · exact log_run (fun s call => inbox_step hsoap hhonest s call) s w
  · exact @log_run _ _ _ (step env service) SmsWorld.reported _ (fun s call => rfl) s w
  · exact collected_forall₂ (fun s call => added_readAs hsoap hhonest s call) s w
  · exact collected_sublist (fun s call => confirmed_sublist hsoap hhonest s call) s w
  · have hcalls := @collected_labels _ _ _ (step env service) (fun call => [call]) s w
    rw [List.flatMap_singleton'] at hcalls
    have hsublist := @collected_sublist _ _ _ (step env service)
      (fun s call => s.arrived env service call) (fun _ call => [call])
      (fun s call => arrived_sublist) s w
    rwa [hcalls] at hsublist

/-- The SOAP backend, with credentials. -/
def soapEnv : SmsEnv where
  settings := { backend := "soap", soapUserId := "dcim", soapPassword := "secret" }
  lower := asciiLower
  upper text := String.ofList (text.toList.map Char.toUpper)
  upper_empty := rfl
  parser := utf8Parser

/-- A service that keeps whatever it can read, and answers the rest with an error. -/
def openService : SmsService where
  keeps _ _ := true
  answers _ request :=
    if request.isSome then ⟨200, "OK", soapEnv.serviceUrl, "<a><StatusId>1</StatusId></a>".toUTF8⟩
    else ⟨500, "Internal Server Error", soapEnv.serviceUrl, "".toUTF8⟩

theorem honest_openService : openService.Honest soapEnv := by
  intro inbox request root hstatus hroot htells
  cases request with
  | none =>
      refine absurd ⟨?_, ?_⟩ hstatus
      · show 400 ≤ 500
        decide
      · show 500 < 600
        decide
  | some r => exact ⟨r, rfl, rfl⟩

/-- A message whose answer is lost, and the same message once more. -/
def resent : List SmsCall :=
  [⟨"+8801711111111", "CPU < 90 %", .replyLost "Read timed out."⟩,
    ⟨"+8801711111111", "CPU < 90 %", .reliable⟩]

theorem sends_arrive_resent : ∃ kept arrived reported,
    (run (step soapEnv openService) {} resent).inbox = [] ++ kept ∧
    (run (step soapEnv openService) {} resent).reported = [] ++ reported ∧
    List.Forall₂ (fun r call => call.IsReadAs soapEnv r) kept arrived ∧
    reported.Sublist arrived ∧ arrived.Sublist resent :=
  sends_arrive (by decide) honest_openService {} resent

end SmsWorld

end DcimBackend

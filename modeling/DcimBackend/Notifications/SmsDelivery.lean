import DcimBackend.Notifications.SmsGateway

/-!
# Delivering a text message

`send_sms_notification` in the place of the reply that a delivery gets: the workers of one
notification by text message, the network and the service in one system.  Between two statements
of a worker any other may run, and so may the calls for other notifications.

The message of a notification never changes.  The phone is a column of its recipient, which a worker
reads when it delivers, and the recipient may change it at any time: `hadPhones` are the phones that
there have been.

`sentKept_run` says that the notification is marked as sent only when the service has kept its
message, for the number of one of these phones.

The reply of a delivery decides what its worker writes, and the phone is that of the moment of the
delivery.  `Backed` connects the two sides: a worker that has delivered, and a notification that
is marked as sent, each have a kept message behind them.
-/

namespace DcimBackend

open Library

/-- `_recipient_phone`.  Of the four fields a user has `phone` only, and an empty phone stands for
none. -/
def recipientPhone (phone : Option String) : String :=
  ((phone.filter (· ≠ "")).map pyStrip).getD ""

/-- `send_sms_notification`, to a recipient with this phone. -/
def SmsEnv.sendSmsNotification (env : SmsEnv) {σ : Type*} (post : HttpPost σ)
    (phone : Option String) (message : String) (s : σ) : Except String Dict × σ :=
  if recipientPhone phone = "" then
    (.error "Recipient phone/mobile is missing for SMS notification", s)
  else env.sendSmsMessage post (recipientPhone phone) message s

/-! ### The workers -/

/-- The worker has claimed the notification, and delivers it next. -/
def DeliveryPhase.isClaimed : DeliveryPhase → Bool
  | .idle => false
  | .claimed _ _ => true
  | .delivered _ _ _ => false
  | .caught _ => false
  | .failing _ _ => false

/-- The statement is the delivery itself. -/
def DeliveryStep.isDelivery : DeliveryStep → Bool
  | .claim _ _ _ => false
  | .deliver _ _ _ => true
  | .saveSent _ _ _ => false
  | .reload _ => false
  | .saveFailed _ _ => false
  | .requeueStale _ _ => false
  | .queuePending => false

namespace Deliveries

variable {K L : Prop} {s : Deliveries} {worker : ℕ} {phase : DeliveryPhase} {row : Notification}

/-- A worker in this phase delivers by text message, and has delivered only if `K`. -/
structure Backs (K : Prop) (phase : DeliveryPhase) : Prop where
  claimed : ∀ runner copy, phase = .claimed runner copy → copy.channel = .sms
  delivered : ∀ runner copy result, phase = .delivered runner copy result → K

/-- A notification by text message that is sent, or has been delivered by a worker, only if
`K`. -/
structure BackedBy (K : Prop) (s : Deliveries) : Prop where
  channel : s.notification.channel = .sms
  sent : s.notification.status = .sent → K
  workers : ∀ worker, Backs K (s.workers worker)

theorem BackedBy.imp (h : BackedBy K s) (hKL : K → L) : BackedBy L s where
  channel := h.channel
  sent hsent := hKL (h.sent hsent)
  workers worker := ⟨(h.workers worker).claimed, fun runner copy result hphase =>
    hKL ((h.workers worker).delivered runner copy result hphase)⟩

theorem BackedBy.save (h : BackedBy K s) (hphase : Backs K phase) (hchannel : row.channel = .sms)
    (hsent : row.status = .sent → K) : BackedBy K (s.save worker phase row) where
  channel := hchannel
  sent := hsent
  workers other := by
    show Backs K (Function.update s.workers worker phase other)
    by_cases hother : other = worker
    · subst hother
      rw [Function.update_self]
      exact hphase
    · rw [Function.update_of_ne hother]
      exact h.workers other

theorem BackedBy.move (h : BackedBy K s) (hphase : Backs K phase) :
    BackedBy K (s.move worker phase) :=
  h.save hphase h.channel h.sent

theorem backs_idle : Backs K .idle where
  claimed _ _ hphase := nomatch hphase
  delivered _ _ _ hphase := nomatch hphase

theorem backs_caught (error : String) : Backs K (.caught error) where
  claimed _ _ hphase := nomatch hphase
  delivered _ _ _ hphase := nomatch hphase

theorem backs_failing (copy : Notification) (error : String) : Backs K (.failing copy error) where
  claimed _ _ hphase := nomatch hphase
  delivered _ _ _ hphase := nomatch hphase

theorem backs_claimed {copy : Notification} (hchannel : copy.channel = .sms)
    (runner : DeliveryRunner) : Backs K (.claimed runner copy) where
  claimed _ _ hphase := by
    cases hphase
    exact hchannel
  delivered _ _ _ hphase := nomatch hphase

theorem backs_delivered (hK : K) (runner : DeliveryRunner) (copy : Notification)
    (result : Option Dict) : Backs K (.delivered runner copy result) where
  claimed _ _ hphase := nomatch hphase
  delivered _ _ _ _ := hK

/-- The delivery backs the phase behind it, if its reply does. -/
theorem BackedBy.deliver (h : BackedBy K s) {reply : Notification.Reply} {now : ℤ}
    (hreply : reply.toOption.isSome → K) : BackedBy K (s.step (.deliver worker reply now)) := by
  simp only [step]
  split
  swap
  · exact h
  rename_i runner copy hworker
  have hchannel : copy.channel = .sms := (h.workers worker).claimed runner copy hworker
  -- The channel is that of the copy, which only the claim has read.
  unfold Deliveries.deliver Notification.deliveryResult
  rw [hchannel]
  cases reply with
  | ok result => exact h.move (backs_delivered (hreply rfl) runner copy (some result))
  | error error =>
      cases runner with
      | sendNotificationTask => exact h.move (backs_caught error)
      | deliverPendingNotifications => exact h.move (backs_failing copy error)

/-- The other statements send nothing. -/
theorem BackedBy.step (h : BackedBy K s) {i : DeliveryStep} (hi : i.isDelivery = false) :
    BackedBy K (s.step i) := by
  cases i with
  | claim worker runner now =>
      simp only [Deliveries.step]
      split
      · rename_i row hidle hclaimed
        unfold Notification.claimForDelivery at hclaimed
        split at hclaimed
        · cases hclaimed
        · obtain rfl := Option.some.inj hclaimed
          refine h.save (backs_claimed ?_ runner) h.channel fun hsent => ?_
          · exact h.channel
          · cases hsent
      · exact h
  | deliver worker reply now => cases hi
  | saveSent worker now error =>
      simp only [Deliveries.step]
      split
      swap
      · exact h
      rename_i runner copy result hworker
      -- The only statement that marks as sent comes behind a delivery.
      have hK : K := (h.workers worker).delivered runner copy result hworker
      unfold Deliveries.saveSent
      split
      · dsimp only
        split
        · exact h.save backs_idle h.channel fun _ => hK
        · exact h.move (backs_caught error)
      · exact h.save backs_idle h.channel fun _ => hK
  | reload worker =>
      simp only [Deliveries.step]
      split
      · exact h.move (backs_failing _ _)
      · exact h
  | saveFailed worker now =>
      simp only [Deliveries.step]
      split
      · refine h.save backs_idle h.channel fun hsent => ?_
        cases hsent
      · exact h
  | requeueStale now olderThan =>
      refine ⟨?_, ?_, h.workers⟩
      · show (s.notification.requeueStale now olderThan).channel = .sms
        unfold Notification.requeueStale
        split
        · exact h.channel
        split
        · exact h.channel
        · exact h.channel
      · show (s.notification.requeueStale now olderThan).status = .sent → K
        unfold Notification.requeueStale
        split
        · exact h.sent
        split
        · exact h.sent
        · intro hsent
          cases hsent
  | queuePending => exact h

end Deliveries

/-! ### The system -/

/-- The workers of a notification, the phone of its recipient, and what the service has kept. -/
structure SmsDeliveries where
  deliveries : Deliveries
  phone : Option String
  inbox : List SmsRequest := []

/-- A step of the system. -/
inductive SmsDeliveryStep
  /-- A worker delivers. -/
  | deliver (worker : ℕ) (network : Network) (now : ℤ)
  /-- Another statement of a worker, or of the requeueing. -/
  | statement (i : DeliveryStep)
  /-- A message of another notification. -/
  | call (call : SmsCall)
  /-- The recipient has another phone. -/
  | savePhone (phone : Option String)

/-- The phone that a step gives the recipient. -/
def SmsDeliveryStep.savedPhone : SmsDeliveryStep → Option (Option String)
  | .deliver .. => none
  | .statement _ => none
  | .call _ => none
  | .savePhone phone => some phone

namespace SmsDeliveries

variable (env : SmsEnv) (service : SmsService) (message : String)

/-- A step.  A worker that has claimed nothing delivers nothing. -/
def step (s : SmsDeliveries) : SmsDeliveryStep → SmsDeliveries
  | .deliver worker network now =>
      if (s.deliveries.workers worker).isClaimed then
        let sent := env.sendSmsNotification (service.post network) s.phone message s.inbox
        { s with
          deliveries := s.deliveries.step (.deliver worker sent.1 now)
          inbox := sent.2 }
      else s
  | .statement i => if i.isDelivery then s else { s with deliveries := s.deliveries.step i }
  | .call call => { s with inbox := (SmsWorld.sent env service { inbox := s.inbox } call).2 }
  | .savePhone phone => { s with phone := phone }

/-- The phones that the recipient has had along a run. -/
def hadPhones (s : SmsDeliveries) (w : List SmsDeliveryStep) : List (Option String) :=
  s.phone :: w.filterMap SmsDeliveryStep.savedPhone

/-- A request that a service has read is that of the message, for one of the phones. -/
def IsFor (phones : List (Option String)) (r : SmsRequest) : Prop :=
  r.message = lineFeeds message ∧ ∃ phone, some phone ∈ phones ∧ IsNumberOf r.phone phone

/-- The service has kept the message since it had `start`. -/
def Kept (phones : List (Option String)) (start inbox : List SmsRequest) : Prop :=
  ∃ arrived, inbox = start ++ arrived ∧ ∃ r ∈ arrived, IsFor message phones r

/-- The notification is marked as sent only if the service has kept its message. -/
def SentKept (phones : List (Option String)) (start : List SmsRequest) (s : SmsDeliveries) : Prop :=
  s.deliveries.notification.status = .sent → Kept message phones start s.inbox

/-- What the service had in the beginning it still has, and the notification is backed by what it
has kept since. -/
structure Backed (phones : List (Option String)) (start : List SmsRequest) (s : SmsDeliveries) :
    Prop where
  phone : s.phone ∈ phones
  grows : start <+: s.inbox
  backed : s.deliveries.BackedBy (Kept message phones start s.inbox)

variable {env service message} {phones : List (Option String)}
  {start inbox added : List SmsRequest} {s : SmsDeliveries}

theorem Kept.append (h : Kept message phones start inbox) :
    Kept message phones start (inbox ++ added) := by
  obtain ⟨arrived, rfl, r, hr, hfor⟩ := h
  exact ⟨arrived ++ added, List.append_assoc .., r, List.mem_append_left _ hr, hfor⟩

/-- What a call leaves at the service, and that its message is there if the call succeeds. -/
theorem exists_sent (hsoap : env.lower (pyStrip env.settings.backend) = "soap")
    (hhonest : service.Honest env) (world : SmsWorld) (call : SmsCall) :
    ∃ added, (world.sent env service call).2 = world.inbox ++ added ∧
      ((world.sent env service call).1.toOption.isSome →
        ∃ r ∈ added, call.IsReadAs env r) := by
  obtain ⟨q?, hinbox, hread, hok⟩ := @SmsWorld.sent_spec env service world call hsoap hhonest
  refine ⟨q?.toList, hinbox, fun hreturns => ?_⟩
  obtain ⟨q, rfl⟩ := Option.ne_none_iff_exists'.mp (hok hreturns)
  exact ⟨q, List.mem_singleton_self q, hread q rfl⟩

/-- A notification with a phone is a call. -/
theorem sendSmsNotification_of_ne (network : Network) {phone : Option String}
    (hphone : recipientPhone phone ≠ "") :
    env.sendSmsNotification (service.post network) phone message inbox =
      SmsWorld.sent env service { inbox := inbox } ⟨recipientPhone phone, message, network⟩ := by
  rw [SmsEnv.sendSmsNotification, if_neg hphone]
  rfl

/-- The number of a recipient is that of the phone. -/
theorem exists_phone_of_isNumberOf {number : String} {phone : Option String}
    (hphone : recipientPhone phone ≠ "") (h : IsNumberOf number (recipientPhone phone)) :
    ∃ text, phone = some text ∧ IsNumberOf number text := by
  cases phone with
  | none => exact absurd rfl hphone
  | some text =>
      refine ⟨text, rfl, h.starts, ?_⟩
      have hdigits := h.digits
      unfold recipientPhone at hphone hdigits
      rw [Option.filter_some] at hphone hdigits
      split at hdigits
      · rwa [Option.map_some, Option.getD_some, phoneDigits_pyStrip] at hdigits
      · rename_i hempty
        rw [if_neg hempty] at hphone
        exact absurd rfl hphone

/-- What a notification leaves at the service. -/
theorem exists_sendSmsNotification (hsoap : env.lower (pyStrip env.settings.backend) = "soap")
    (hhonest : service.Honest env) (network : Network) {phone : Option String}
    (hphone : phone ∈ phones) :
    ∃ added,
      (env.sendSmsNotification (service.post network) phone message inbox).2 = inbox ++ added ∧
      ((env.sendSmsNotification (service.post network) phone message inbox).1.toOption.isSome →
        ∃ r ∈ added, IsFor message phones r) := by
  by_cases hempty : recipientPhone phone = ""
  · rw [SmsEnv.sendSmsNotification, if_pos hempty]
    exact ⟨[], (List.append_nil _).symm, fun hok => by cases hok⟩
  · rw [sendSmsNotification_of_ne network hempty]
    obtain ⟨added, hinbox, hadded⟩ :=
      exists_sent hsoap hhonest { inbox := inbox } ⟨recipientPhone phone, message, network⟩
    refine ⟨added, hinbox, fun hok => ?_⟩
    obtain ⟨r, hr, hread⟩ := hadded hok
    obtain ⟨text, rfl, hnumber⟩ := exists_phone_of_isNumberOf hempty hread.phone
    exact ⟨r, hr, hread.message, text, hphone, hnumber⟩

/-- **The step lemma**: what is backed stays so. -/
theorem backed_step (hsoap : env.lower (pyStrip env.settings.backend) = "soap")
    (hhonest : service.Honest env) (h : Backed message phones start s) {i : SmsDeliveryStep}
    (hi : ∀ phone, i.savedPhone = some phone → phone ∈ phones) :
    Backed message phones start (step env service message s i) := by
  cases i with
  | deliver worker network now =>
      simp only [step]
      split
      swap
      · exact h
      obtain ⟨added, hinbox, hadded⟩ :=
        @exists_sendSmsNotification _ _ message _ s.inbox hsoap hhonest network _ h.phone
      refine ⟨h.phone, ?_, ?_⟩
      · show start <+: (env.sendSmsNotification (service.post network) s.phone message s.inbox).2
        rw [hinbox]
        exact h.grows.trans (List.prefix_append _ _)
      · show Deliveries.BackedBy (Kept message phones start
          (env.sendSmsNotification (service.post network) s.phone message s.inbox).2) _
        rw [hinbox]
        refine (h.backed.imp Kept.append).deliver fun hok => ?_
        -- What this call has added stands behind all that came since the start.
        obtain ⟨r, hr, hfor⟩ := hadded hok
        obtain ⟨arrived, harrived⟩ := h.grows
        refine ⟨arrived ++ added, ?_, r, List.mem_append_right _ hr, hfor⟩
        rw [← harrived, List.append_assoc]
  | statement i =>
      simp only [step]
      split
      · exact h
      · rename_i hstatement
        exact ⟨h.phone, h.grows, h.backed.step (Bool.eq_false_iff.mpr hstatement)⟩
  | call call =>
      obtain ⟨added, hinbox, -⟩ := exists_sent hsoap hhonest { inbox := s.inbox } call
      refine ⟨h.phone, ?_, ?_⟩
      · show start <+: (SmsWorld.sent env service { inbox := s.inbox } call).2
        rw [hinbox]
        exact h.grows.trans (List.prefix_append _ _)
      · show Deliveries.BackedBy (Kept message phones start
          (SmsWorld.sent env service { inbox := s.inbox } call).2) s.deliveries
        rw [hinbox]
        exact h.backed.imp Kept.append
  | savePhone phone => exact ⟨hi phone rfl, h.grows, h.backed⟩

/-- **The run lemma.** -/
theorem backed_run (hsoap : env.lower (pyStrip env.settings.backend) = "soap")
    (hhonest : service.Honest env) {w : List SmsDeliveryStep}
    (hw : ∀ phone ∈ w.filterMap SmsDeliveryStep.savedPhone, phone ∈ phones)
    (h : Backed message phones start s) :
    Backed message phones start (run (step env service message) s w) := by
  induction w generalizing s with
  | nil => exact h
  | cons i w ih =>
      have hi : ∀ phone, i.savedPhone = some phone → phone ∈ phones := by
        intro phone hphone
        refine hw phone (List.mem_filterMap.mpr ⟨i, List.mem_cons_self, hphone⟩)
      refine ih (fun phone hphone => ?_) (backed_step hsoap hhonest h hi)
      obtain ⟨j, hj, hsaved⟩ := List.mem_filterMap.mp hphone
      exact hw phone (List.mem_filterMap.mpr ⟨j, List.mem_cons_of_mem _ hj, hsaved⟩)

/-- **A text message is sent only when it is kept**: from a notification by text message that is
not sent, with no worker on it, a run of workers, of a network that loses requests and answers, of
other calls and of changes of the recipient's phone marks it as sent only after the service has kept
its message, for the number of a phone that the recipient has had. -/
theorem sentKept_run (hsoap : env.lower (pyStrip env.settings.backend) = "soap")
    (hhonest : service.Honest env) (hchannel : s.deliveries.notification.channel = .sms)
    (hunsent : s.deliveries.notification.status ≠ .sent)
    (hidle : ∀ worker, s.deliveries.workers worker = .idle) (w : List SmsDeliveryStep) :
    SentKept message (s.hadPhones w) s.inbox (run (step env service message) s w) := by
  have hstart : Backed message (s.hadPhones w) s.inbox s := by
    refine ⟨List.mem_cons_self, List.prefix_refl _, hchannel,
      fun hsent => absurd hsent hunsent, fun worker => ?_⟩
    rw [hidle worker]
    exact Deliveries.backs_idle
  have hrun := backed_run hsoap hhonest
    (fun phone hphone => List.mem_cons_of_mem s.phone hphone) hstart
  exact hrun.backed.sent

/-- A text message that waits for its delivery, to a recipient with a phone that is none, and a
service that has kept nothing. -/
def waiting : SmsDeliveries where
  deliveries := Deliveries.textMessage
  phone := some "01711"

/-- A worker that is refused the phone, and one that sends the message when it has been corrected
but loses the answer; another one sends it once more. -/
def retried : List SmsDeliveryStep :=
  [.statement (.claim 0 .sendNotificationTask 0),
    .deliver 0 .reliable 1000000,
    .statement (.reload 0),
    .statement (.saveFailed 0 1000000),
    .savePhone (some " +8801711111111 "),
    .statement (.claim 0 .sendNotificationTask 10000000),
    .deliver 0 (.replyLost "Read timed out.") 25000000,
    .statement (.reload 0),
    .statement (.saveFailed 0 25000000),
    .statement (.claim 1 .sendNotificationTask 60000000),
    .deliver 1 .reliable 61000000,
    .statement (.saveSent 1 61000000 "")]

theorem sentKept_retried : waiting.deliveries.notification.status ≠ .sent ∧
    SentKept "CPU < 90 %" (waiting.hadPhones retried) waiting.inbox
      (run (step SmsWorld.soapEnv SmsWorld.openService "CPU < 90 %") waiting retried) :=
  ⟨by decide, sentKept_run (by decide) SmsWorld.honest_openService rfl (by decide) (fun _ => rfl)
    retried⟩

end SmsDeliveries

end DcimBackend

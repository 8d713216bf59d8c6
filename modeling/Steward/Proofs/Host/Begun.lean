import Steward.Proofs.Host.Turns

/-! Calls up to their wake-ups. Whoever makes something available wakes those who wait for it only
afterwards, and other threads can come in between. So a call begins with what it changes, and its
wake-ups are delivered later. -/

set_option autoImplicit false

namespace Steward.Assoc

variable {Key Value : Type} [DecidableEq Key]

theorem entries_insert_new {map : Assoc Key Value} {key : Key} (absent : map.get? key = none)
    (value : Value) : (map.insert key value).entries = map.entries ++ [(key, value)] := by
  simp [insert, absent]

theorem mapValues_insert_new {map : Assoc Key Value} {key : Key} (absent : map.get? key = none)
    (value : Value) (transform : Key → Value → Value) :
    (map.insert key value).mapValues transform =
      (map.mapValues transform).insert key (transform key value) := by
  have still : (map.mapValues transform).get? key = none := by rw [get?_mapValues, absent]; rfl
  apply ext
  rw [entries_insert_new still]
  simp [mapValues, entries_insert_new absent]

theorem get?_of_erase {map : Assoc Key Value} {key other : Key} {value : Value}
    (found : (map.erase key).get? other = some value) : map.get? other = some value := by
  rw [get?_erase] at found
  split at found
  · cases found
  · exact found

theorem erase_of_absent {map : Assoc Key Value} {key : Key} (absent : map.get? key = none) :
    map.erase key = map := by
  apply ext
  refine List.filter_eq_self.2 fun entry inside => ?_
  have apart : entry.1 ≠ key := by
    rintro rfl
    rw [get?_of_mem inside] at absent
    cases absent
  simpa using apart

end Steward.Assoc

namespace Steward.Host

open Deadlock

variable {host begun : Host}

/-- The waits as they were before anybody was woken. -/
def unwoken (before after : Assoc ThreadId Wait) : Assoc ThreadId Wait :=
  after.mapValues fun thread wait =>
    match before.get? thread with
    | some earlier => if earlier.wake = wait then earlier else wait
    | none => wait

/-- The host after a call, before anybody is woken by it. Time and workers wake at once. -/
def begin (host : Host) (call : Call) : Host :=
  match call with
  | .elapse _ | .restCrew => host.heed call
  | _ => { host.heed call with waits := unwoken host.waits (host.heed call).waits }

/-- The wake-ups that are to be delivered after a call. -/
def wakeUps (host : Host) (call : Call) : List WakeUp :=
  match call with
  | .turn thread => host.turnWakeUps thread
  | _ => call.wakeUps host

theorem unwoken_rouse {part : Host} (woken : ThreadId → Wait → Bool)
    (inside : ∀ thread wait, part.waits.get? thread = some wait →
      host.waits.get? thread = some wait) :
    unwoken host.waits (part.rouse woken).waits = part.waits := by
  simp only [unwoken, rouse, Assoc.mapValues_mapValues]
  apply Assoc.ext
  refine (List.map_congr_left fun entry there => ?_).trans (List.map_id _)
  obtain ⟨thread, wait⟩ := entry
  have before := inside thread wait (Assoc.get?_of_mem there)
  simp only [before, id_eq, Prod.mk.injEq, true_and]
  cases woken thread wait with
  | true => simp
  | false =>
    simp only [Bool.false_eq_true, if_false]
    split <;> rfl

theorem unwoken_of_inside {part : Host} (inside : ∀ thread wait,
      part.waits.get? thread = some wait → host.waits.get? thread = some wait) :
    unwoken host.waits part.waits = part.waits := by
  have nobody := unwoken_rouse (fun _ _ => false) inside
  rwa [rouse_nobody] at nobody

theorem unwoken_insert {whole part : Assoc ThreadId Wait} {thread : ThreadId}
    (absent : part.get? thread = none) (wait : Wait)
    (stirred : ∀ earlier, whole.get? thread = some earlier → earlier.stage ≠ .asleep) :
    unwoken whole (part.insert thread wait) = (unwoken whole part).insert thread wait := by
  unfold unwoken
  rw [Assoc.mapValues_insert_new absent]
  congr
  split
  · next earlier found =>
    rw [Wait.wake_of_stirring (stirred earlier found)]
    split
    · assumption
    · rfl
  · rfl

/-- A wake-up passes by a thread that is not asleep. -/
theorem deliver_insert {thread : ThreadId} {wait : Wait} (absent : host.waits.get? thread = none)
    (stirs : wait.stage ≠ .asleep) (wakeUp : WakeUp) :
    (deliver { host with waits := host.waits.insert thread wait } wakeUp).waits =
      (host.deliver wakeUp).waits.insert thread wait := by
  unfold deliver
  split
  · simp only [wakeAll]
    rw [Assoc.mapValues_insert_new absent, Wait.wake_of_stirring stirs, ite_self]
  · have passed : (host.waits.insert thread wait).entries.find? (isSleeper wakeUp.target) =
        host.waits.entries.find? (isSleeper wakeUp.target) := by
      simp [Assoc.insert, absent, isSleeper, stirs]
    simp only [wakeOne, passed]
    split
    · simp only [Assoc.modify]
      rw [Assoc.mapValues_insert_new absent, Wait.wake_of_stirring stirs, ite_self]
    · rfl

theorem deliverAll_insert {thread : ThreadId} {wait : Wait}
    (absent : host.waits.get? thread = none) (stirs : wait.stage ≠ .asleep)
    (wakeUps : List WakeUp) :
    (deliverAll { host with waits := host.waits.insert thread wait } wakeUps).waits =
      (host.deliverAll wakeUps).waits.insert thread wait := by
  induction wakeUps generalizing host with
  | nil => rfl
  | cons wakeUp rest ih =>
    obtain ⟨woken, roused⟩ := host.rouses_deliver wakeUp
    have still : (host.deliver wakeUp).waits.get? thread = none := by
      rw [roused, get?_rouse, absent]
      rfl
    have first := deliver_insert absent stirs wakeUp
    exact (waits_deliverAll first rest).trans (ih still)

/-! ### How calls begin -/

/-- What a call names is there. -/
def accepts (host : Host) : Call → Bool
  | .wait _ target _ _ => host.names target
  | .monitorWait _ serial _ _ _ => host.names (.signal serial)
  | _ => true

/-- A wait for something that is there, by a thread that has a number. -/
structure Fits (host : Host) (thread : ThreadId) (wait : Wait) : Prop where
  numbered : thread.value < host.nextThread
  named : host.names wait.target = true
  proper : wait.isProper = true

/-- Threads that wait and threads whose gate is closed have numbers, and what is waited for is
there. -/
structure Orderly (host : Host) : Prop where
  waits : ∀ thread wait, host.waits.get? thread = some wait → host.Fits thread wait
  closed : ∀ thread, (host.control thread).gate.isOpen = false → thread.value < host.nextThread

/-- How a host is when a call began: which waits began, slept or ended, and what became
available. -/
inductive Begun (host : Host) : List WakeUp → Host → Prop where
  | told {wakeUps : List WakeUp} {begun : Host} (offers : Offers wakeUps host begun)
      (waits : begun.waits = host.waits) (nextThread : host.nextThread ≤ begun.nextThread)
      (nextSerial : host.nextSerial ≤ begun.nextSerial) : Begun host wakeUps begun
  | roused {begun : Host} {woken : ThreadId → Wait → Bool} (offers : Offers [] host begun)
      (waits : begun.waits = (host.rouse woken).waits)
      (nextThread : host.nextThread ≤ begun.nextThread)
      (nextSerial : begun.nextSerial = host.nextSerial) : Begun host [] begun
  | began {begun : Host} {thread : ThreadId} {wait : Wait} (offers : Offers [] host begun)
      (absent : host.waits.get? thread = none) (starts : wait.stage = .starting)
      (proper : wait.isProper = true) (named : host.names wait.target = true)
      (waits : begun.waits = host.waits.insert thread wait)
      (numbered : thread.value < begun.nextThread)
      (nextThread : host.nextThread ≤ begun.nextThread)
      (nextSerial : begun.nextSerial = host.nextSerial) : Begun host [] begun
  | dozed {begun : Host} {thread : ThreadId} {wait : Wait} (offers : Offers [] host begun)
      (found : host.waits.get? thread = some wait) (stirs : wait.stage ≠ .asleep)
      (missing : (host.away thread).take? thread wait.target = none)
      (calm : (wait.options.alertable && host.isAlerted thread) = false)
      (waits : begun.waits =
        (host.waits.erase thread).insert thread { wait with stage := .asleep })
      (nextThread : host.nextThread ≤ begun.nextThread)
      (nextSerial : begun.nextSerial = host.nextSerial) : Begun host [] begun
  | took {begun left : Host} {thread : ThreadId} {wait : Wait} {ending : Ending}
      (found : host.waits.get? thread = some wait) (stirs : wait.stage ≠ .asleep)
      (taken : Takes (host.away thread) thread wait.target ending left)
      (offers : Offers [] left begun) (waits : begun.waits = host.waits.erase thread)
      (nextThread : host.nextThread ≤ begun.nextThread)
      (nextSerial : begun.nextSerial = host.nextSerial) : Begun host [] begun
  | gaveUp {wakeUps : List WakeUp} {begun : Host} {thread : ThreadId} {wait : Wait}
      (found : host.waits.get? thread = some wait) (stirs : wait.stage ≠ .asleep)
      (missing : wait.stage ≠ .starting → (host.away thread).take? thread wait.target = none)
      (offers : Offers wakeUps (host.away thread) begun)
      (waits : begun.waits = host.waits.erase thread)
      (nextThread : host.nextThread ≤ begun.nextThread)
      (nextSerial : begun.nextSerial = host.nextSerial) : Begun host wakeUps begun
  | resumed {wakeUps : List WakeUp} {begun : Host} {thread : ThreadId} {wait next : Wait}
      (found : host.waits.get? thread = some wait) (stirs : wait.stage ≠ .asleep)
      (missing : wait.stage ≠ .starting → (host.away thread).take? thread wait.target = none)
      (offers : Offers wakeUps (host.away thread) begun)
      (starts : next.stage = .starting) (proper : next.isProper = true)
      (target : next.target = wait.target)
      (waits : begun.waits = (host.waits.erase thread).insert thread next)
      (nextThread : host.nextThread ≤ begun.nextThread)
      (nextSerial : begun.nextSerial = host.nextSerial) : Begun host wakeUps begun

/-- A call that ends like this falls into a beginning and its wake-ups. -/
structure Splits (host : Host) (wakeUps : List WakeUp) (after : Host) : Prop where
  begun : Begun host wakeUps { after with waits := unwoken host.waits after.waits }
  delivered : after.waits =
    (deliverAll { after with waits := unwoken host.waits after.waits } wakeUps).waits

theorem Offers.rest {wakeUps : List WakeUp} {after : Host} (offers : Offers wakeUps host after)
    (waits : Assoc ThreadId Wait) : Offers wakeUps host { after with waits } :=
  ⟨offers.opens, offers.slots, offers.alerts, offers.closed⟩

theorem Told.unwoken {wakeUps : List WakeUp} {part after : Host} (told : Told wakeUps part after)
    (inside : ∀ thread wait, part.waits.get? thread = some wait →
      host.waits.get? thread = some wait) : unwoken host.waits after.waits = part.waits := by
  obtain ⟨woken, roused⟩ := part.rouses_deliverAll wakeUps
  rw [told.waits, roused]
  exact unwoken_rouse woken inside

namespace Splits

variable {wakeUps : List WakeUp} {after : Host} {thread : ThreadId}

theorem of_told (told : Told wakeUps host after) (nextSerial : host.nextSerial ≤ after.nextSerial) :
    Splits host wakeUps after := by
  have rested : Host.unwoken host.waits after.waits = host.waits :=
    told.unwoken fun _ _ found => found
  exact ⟨.told (told.toOffers.rest _) rested told.nextThread nextSerial,
    told.waits.trans (waits_deliverAll rested.symm wakeUps)⟩

theorem of_kept {sets : List Nat} (kept : Kept sets wakeUps host after) :
    Splits host wakeUps after := .of_told kept.toTold (Nat.le_of_eq kept.nextSerial.symm)

/-- A thread that waited for nothing begins to wait. -/
theorem of_startWait {other : Host} (offers : Offers [] host other)
    (same : other.waits = host.waits) (nextThread : host.nextThread ≤ other.nextThread)
    (nextSerial : other.nextSerial = host.nextSerial) (absent : host.waits.get? thread = none)
    (numbered : thread.value < other.nextThread) {target : Target} {timeout : Option Nat}
    {options : Sync.WaitOptions} {purpose : Purpose} (named : host.names target = true)
    (proper : Wait.isProper ⟨target, none, options, purpose, .starting⟩ = true) :
    Splits host [] (other.startWait thread target timeout options purpose) := by
  let wait : Wait :=
    ⟨target, timeout.map fun span => other.clock + span, options, purpose, .starting⟩
  have waits : (other.startWait thread target timeout options purpose).waits =
      host.waits.insert thread wait := by
    rw [← Assoc.erase_of_absent absent, ← same]
    rfl
  have rested : Host.unwoken host.waits
      (other.startWait thread target timeout options purpose).waits =
        host.waits.insert thread wait := by
    rw [waits, unwoken_insert absent wait (by simp [absent]),
      unwoken_of_inside fun _ _ found => found]
  have there : host.names wait.target = true := named
  have properly : wait.isProper = true := proper
  exact ⟨.began ⟨offers.opens, offers.slots, offers.alerts, offers.closed⟩ absent rfl properly there
    rested numbered nextThread nextSerial, waits.trans rested.symm⟩

theorem of_turned {deeds : List SyncDeed} (turned : Turned host thread deeds wakeUps after) :
    Splits host wakeUps after := by
  -- The thread was not asleep itself, so its own wait is not taken for one that was woken.
  have without : ∀ wait, host.waits.get? thread = some wait → wait.stage ≠ .asleep →
      ∀ earlier, host.waits.get? thread = some earlier → earlier.stage ≠ .asleep := by
    intro wait found stirs earlier again
    rw [found] at again
    cases again
    exact stirs
  have inside : ∀ other wait, (host.away thread).waits.get? other = some wait →
      host.waits.get? other = some wait := fun _ _ => Assoc.get?_of_erase
  have gone : (host.away thread).waits.get? thread = none := Assoc.get?_erase_self _ _
  have erased : Host.unwoken host.waits (host.waits.erase thread) = host.waits.erase thread :=
    unwoken_of_inside inside
  cases turned with
  | idle resting => exact .of_kept (.refl host)
  | @dozed wait found stirs missing calm =>
    let asleep : Wait := { wait with stage := .asleep }
    have rested : Host.unwoken host.waits ((host.waits.erase thread).insert thread asleep) =
        (host.waits.erase thread).insert thread asleep := by
      rw [unwoken_insert (Assoc.get?_erase_self _ _) asleep (without wait found stirs), erased]
    have offers : Offers [] host { host with
        waits := (host.waits.erase thread).insert thread asleep } := .of_same rfl rfl rfl rfl rfl
    exact ⟨.dozed (offers.rest _) found stirs missing calm rested (Nat.le_refl _) rfl, rested.symm⟩
  | @took wait ending left after deeds found stirs taken kept told quiet =>
    have waits : after.waits = host.waits.erase thread := kept.waits.trans taken.waits
    have rested : Host.unwoken host.waits after.waits = host.waits.erase thread := by
      rw [waits, erased]
    exact ⟨.took found stirs taken (kept.toOffers.rest _) rested
      (taken.nextThread ▸ kept.nextThread) (kept.nextSerial.trans taken.nextSerial),
      waits.trans rested.symm⟩
  | @gaveUp wait sets wakeUps ends after found stirs missing kept quiet =>
    have rested : Host.unwoken host.waits after.waits = host.waits.erase thread :=
      kept.toTold.unwoken inside
    exact ⟨.gaveUp found stirs missing (kept.toOffers.rest _) rested kept.nextThread
      kept.nextSerial, kept.waits.trans (waits_deliverAll rested.symm _)⟩
  | @resumed wait sets wakeUps settled cookie next found stirs missing kept =>
    let again : Wait := ⟨wait.target, (some next.current).map fun span => settled.clock + span,
      wait.options, .watched cookie next, .starting⟩
    have absent : settled.waits.get? thread = none := by
      obtain ⟨woken, roused⟩ := (host.away thread).rouses_deliverAll wakeUps
      rw [kept.waits, roused, get?_rouse, gone]
      rfl
    have waits : (settled.startWait thread wait.target (some next.current) wait.options
        (.watched cookie next)).waits = settled.waits.insert thread again := by
      rw [← Assoc.erase_of_absent absent]
      rfl
    have rested : Host.unwoken host.waits (settled.startWait thread wait.target (some next.current)
        wait.options (.watched cookie next)).waits =
          (host.waits.erase thread).insert thread again := by
      rw [waits, unwoken_insert absent again (without wait found stirs), kept.toTold.unwoken inside]
      rfl
    have starts : again.stage ≠ .asleep := nofun
    have proper : again.isProper = true := rfl
    refine ⟨.resumed found stirs missing
      ⟨kept.opens, kept.slots, kept.alerts, kept.closed⟩ rfl proper rfl rested kept.nextThread
      kept.nextSerial, ?_⟩
    calc (settled.startWait thread wait.target (some next.current) wait.options
          (.watched cookie next)).waits
      _ = settled.waits.insert thread again := waits
      _ = ((host.away thread).deliverAll wakeUps).waits.insert thread again := by rw [kept.waits]
      _ = (deliverAll { host.away thread with
            waits := (host.away thread).waits.insert thread again } wakeUps).waits :=
        (deliverAll_insert gone starts wakeUps).symm
      _ = _ := waits_deliverAll rested.symm wakeUps

end Splits

/-! ### Threads and objects that are made or change -/

/-- A new thread opens nothing that was closed. -/
theorem told_addThread (orderly : host.Orderly) {control : Tasks.Control}
    (fresh : control.exited = false ∧ control.alerted = false) :
    Told [] host (host.addThread control).2 := by
  have others : ∀ other, (host.addThread control).2.control other =
      if other = ⟨host.nextThread⟩ then control else host.control other := by
    intro other
    simp only [Host.control, addThread, Assoc.getD, Assoc.get?_insert]
    split <;> rfl
  refine ⟨⟨fun target _ there => .inl ?_, fun target _ => ?_,
    fun thread wait found _ there => .inl ?_, fun thread there => ?_⟩, rfl, Nat.le_succ _⟩
  · cases target with
    | signal | semaphore | lock | notice | workers | sleep => exact there
    | gate thread =>
      rw [isOpen, others] at there
      split at there
      · next same =>
        cases before : (host.control thread).gate.isOpen with
        | true => exact before
        | false =>
          have numbered := orderly.closed thread before
          rw [same] at numbered
          exact absurd numbered (Nat.lt_irrefl _)
      · exact there
    | exit thread =>
      rw [isOpen, others] at there
      split at there
      · rw [fresh.1] at there
        cases there
      · exact there
  · cases target <;> exact Nat.le_refl _
  · rw [isAlerted, others] at there
    split at there
    · rw [fresh.2] at there
      cases there
    · exact there
  · rw [others] at there
    split at there
    · next same => exact .inr (same ▸ Nat.lt_succ_self _)
    · exact .inl there

/-- A change of objects that makes nothing available but by these wake-ups. -/
theorem Offers.of_objects {wakeUps : List WakeUp} {after : Host}
    (opens : ∀ serial, serial < host.nextSerial → after.isOpen (.signal serial) = true →
      host.isOpen (.signal serial) = true)
    (slots : ∀ target, target.isShared = true → host.names target = true →
      after.slots target ≤ host.slots target + wakeUps.count ⟨target, false⟩)
    (controls : after.controls = host.controls)
    (registry : after.registry = host.registry) : Offers wakeUps host after where
  opens target named there := by
    cases target with
    | signal serial => exact .inl (opens serial (of_decide_eq_true named) there)
    | gate | exit => exact .inl (by simpa only [isOpen, control, controls] using there)
    | semaphore | lock | notice | workers | sleep => cases there
  slots target named := by
    cases target with
    | signal | semaphore | lock => exact slots _ rfl named
    | notice => simp only [Host.slots, registry, Nat.le_add_right]
    | gate | exit | workers | sleep => exact Nat.le_add_right _ _
  alerts thread wait found alertable alerted :=
    .inl (by simpa only [isAlerted, control, controls] using alerted)
  closed thread there := .inl (by simpa only [control, controls] using there)

theorem told_addSignal (host : Host) (signal : Sync.Signal) :
    Told [] host (host.addSignal signal).2 := by
  have others : ∀ serial, serial < host.nextSerial →
      (host.addSignal signal).2.signals.get? serial = host.signals.get? serial :=
    fun serial before => Assoc.get?_insert_of_ne _ (Nat.ne_of_lt before) _
  refine ⟨.of_objects (fun serial before there => ?_) (fun target shared named => ?_) rfl rfl, rfl,
    Nat.le_refl _⟩
  · simpa only [isOpen, others serial before] using there
  · cases target with
    | signal serial =>
      simp only [Host.slots, others serial (of_decide_eq_true named), Nat.le_add_right]
    | semaphore | lock => exact Nat.le_refl _
    | gate | exit | notice | workers | sleep => cases shared

theorem told_addSemaphore (host : Host) (semaphore : Sync.Semaphore) :
    Told [] host (host.addSemaphore semaphore).2 := by
  refine ⟨.of_objects (fun _ _ there => there) (fun target shared named => ?_) rfl rfl, rfl,
    Nat.le_refl _⟩
  cases target with
  | semaphore serial =>
    have before : serial < host.nextSerial := of_decide_eq_true named
    simp [Host.slots, addSemaphore, Nat.ne_of_lt before]
  | signal | lock => exact Nat.le_refl _
  | gate | exit | notice | workers | sleep => cases shared

theorem told_addLock (host : Host) (lock : Sync.CriticalSection) :
    Told [] host (host.addLock lock).2 := by
  refine ⟨.of_objects (fun _ _ there => there) (fun target shared named => ?_) rfl rfl, rfl,
    Nat.le_refl _⟩
  cases target with
  | lock serial =>
    have before : serial < host.nextSerial := of_decide_eq_true named
    simp [Host.slots, addLock, Nat.ne_of_lt before]
  | signal | semaphore => exact Nat.le_refl _
  | gate | exit | notice | workers | sleep => cases shared

theorem told_clearSignal (host : Host) (serial : Nat) :
    Told [] host (host.clearSignal serial) := by
  have others : ∀ other, (host.clearSignal serial).signals.get? other =
      (host.signals.get? other).map fun signal =>
        if other = serial then signal.clear else signal := fun _ => Assoc.get?_modify ..
  refine ⟨.of_objects (fun other _ there => ?_) (fun target shared named => ?_) rfl rfl, rfl,
    Nat.le_refl _⟩
  · rw [isOpen, others] at there
    rw [isOpen]
    cases found : host.signals.get? other with
    | none => simp [found] at there
    | some signal =>
      rw [found, Option.map_some, Option.any_some] at there
      split at there
      · simp [Sync.Signal.clear] at there
      · exact there
  · cases target with
    | signal other =>
      rw [Host.slots, others, Host.slots]
      cases found : host.signals.get? other with
      | none => exact Nat.le_add_right _ _
      | some signal => by_cases same : other = serial <;> simp [same, Sync.Signal.clear]
    | semaphore | lock => exact Nat.le_refl _
    | gate | exit | notice | workers | sleep => cases shared

theorem told_releaseSemaphore (host : Host) {serial : Nat} {semaphore : Sync.Semaphore}
    (found : host.semaphores.get? serial = some semaphore) (slots : Nat) :
    Told (host.slotWakeUps serial slots) host
      (host.releaseSemaphore serial slots semaphore).2 := by
  have given : host.slotWakeUps serial slots = match semaphore.release slots with
      | .ok _ => List.replicate slots ⟨.semaphore serial, false⟩
      | .error _ => [] := by
    unfold slotWakeUps
    rw [found, Option.map_some]
    cases semaphore.release slots <;> rfl
  rw [given]
  unfold releaseSemaphore
  cases made : semaphore.release slots with
  | error fault => exact (Kept.refl host).toTold
  | ok released =>
    have count : released.count = semaphore.count + slots := by
      unfold Sync.Semaphore.release at made
      split at made <;> cases made
      rfl
    simp only
    rw [wakeSome_eq_deliverAll]
    refine Offers.told (.of_objects (fun _ _ there => there) (fun target shared _ => ?_) rfl rfl)
      rfl (Nat.le_refl _)
    cases target with
    | semaphore other =>
      by_cases same : other = serial
      · subst same
        simp [Host.slots, found, count]
      · simp [Host.slots, same]
    | signal | lock => exact Nat.le_add_right _ _
    | gate | exit | notice | workers | sleep => cases shared

theorem told_tryLock (host : Host) {thread : ThreadId} {serial : Nat}
    {lock entered : Sync.CriticalSection} (found : host.locks.get? serial = some lock)
    (made : lock.enter? thread = some entered) :
    Told [] host { host with locks := host.locks.insert serial entered } := by
  have held : entered.hold.isNone = false := by
    unfold Sync.CriticalSection.enter? at made
    split at made
    · cases made
      rfl
    · split at made <;> cases made
      rfl
  refine ⟨.of_objects (fun _ _ there => there) (fun target shared _ => ?_) rfl rfl, rfl,
    Nat.le_refl _⟩
  cases target with
  | lock other =>
    by_cases same : other = serial
    · subst same
      simp [Host.slots, held]
    · simp [Host.slots, same]
  | signal | semaphore => exact Nat.le_refl _
  | gate | exit | notice | workers | sleep => cases shared

theorem told_leaveLock (host : Host) (thread : ThreadId) {serial : Nat}
    {lock : Sync.CriticalSection} (found : host.locks.get? serial = some lock) :
    Told (host.leaveWakeUps thread serial) host (host.leaveLock thread serial lock).2 := by
  have given : host.leaveWakeUps thread serial = match lock.leave thread with
      | .ok left => if left.hold = none then [⟨.lock serial, false⟩] else []
      | .error _ => [] := by
    unfold leaveWakeUps
    rw [found, Option.map_some]
    cases lock.leave thread <;> rfl
  rw [given]
  unfold leaveLock
  cases made : lock.leave thread with
  | error fault => exact (Kept.refl host).toTold
  | ok left =>
    let put := { host with locks := host.locks.insert serial left }
    have offers : Offers (if left.hold = none then [⟨.lock serial, false⟩] else []) host put := by
      refine .of_objects (fun _ _ there => there) (fun target shared _ => ?_) rfl rfl
      cases target with
      | lock other =>
        by_cases same : other = serial
        · subst same
          cases free : left.hold <;> simp [Host.slots, put, free]
        · simp [Host.slots, put, same]
      | signal | semaphore => exact Nat.le_add_right _ _
      | gate | exit | notice | workers | sleep => cases shared
    have told := offers.told rfl (Nat.le_refl _)
    by_cases free : left.hold = none
    · simp only [free, if_true] at told ⊢
      exact told
    · simp only [free, if_false] at told ⊢
      exact told

theorem releaseSemaphore_nextSerial (host : Host) (serial slots : Nat)
    (semaphore : Sync.Semaphore) :
    (host.releaseSemaphore serial slots semaphore).2.nextSerial = host.nextSerial := by
  unfold releaseSemaphore
  split
  · rfl
  · exact (wakeSome_books _ _ _).2.2

theorem leaveLock_nextSerial (host : Host) (thread : ThreadId) (serial : Nat)
    (lock : Sync.CriticalSection) :
    (host.leaveLock thread serial lock).2.nextSerial = host.nextSerial := by
  unfold leaveLock
  split
  · rfl
  · simp only
    split
    · exact (wakeSome_books _ 1 _).2.2
    · rfl

/-! ### Every call -/

theorem events_of_reserveThread {registry left : Domain.Registry} {parent child : ThreadId}
    {domain : Option DomainId} (made : registry.reserveThread parent child = (.ok domain, left)) :
    left.events = registry.events := by
  unfold Domain.Registry.reserveThread at made
  split at made
  · cases made
    rfl
  · split at made
    · cases made
    · split at made <;> cases made
      rfl

theorem splits_createTask (orderly : host.Orderly) (parent : ThreadId) :
    Splits host (host.wakeUps (.createTask parent)) (host.heed (.createTask parent)) := by
  let child : ThreadId := ⟨host.nextThread⟩
  let numbered := (host.addThread .suspended).2
  have new : Told [] host numbered := told_addThread orderly ⟨rfl, rfl⟩
  have accounts := host.registry.accounts_reserveThread parent child
  have wakeUps : host.wakeUps (.createTask parent) =
      host.notices (host.registry.reserveThread parent child).2 := rfl
  have heeded : host.heed (.createTask parent) = (host.createTask parent).2 := rfl
  rw [wakeUps, heeded]
  simp only [createTask]
  have reserved : (host.addThread .suspended).2.registry.reserveThread parent
      (host.addThread .suspended).1 = host.registry.reserveThread parent child := rfl
  rw [reserved]
  cases made : host.registry.reserveThread parent child with
  | mk outcome registry =>
    rw [made] at accounts
    have adopted := new.trans (@kept_adopt numbered registry accounts).toTold rfl
    cases outcome with
    | error error => exact .of_told adopted (Nat.le_of_eq (adopt_nextSerial numbered registry).symm)
    | ok domain =>
      have quiet : host.notices registry = [] := by
        simp [notices, events_of_reserveThread made]
      have settled : numbered.adopt registry = { numbered with registry } := by
        have silent : registry.events.accepted - numbered.registry.events.accepted = 0 := by
          rw [events_of_reserveThread made]
          exact Nat.sub_self _
        rw [adopt, silent]
        rfl
      let other := { numbered with registry, tasks := (numbered.tasks.add child).2 }
      have same : Kept [] [] numbered other :=
        .of_same rfl rfl rfl rfl rfl rfl (events_of_reserveThread made) rfl
      have absent : host.waits.get? child = none := by
        cases found : host.waits.get? child with
        | none => rfl
        | some wait => exact absurd (orderly.waits child wait found).numbered (Nat.lt_irrefl _)
      simp only [quiet]
      rw [settled]
      exact .of_startWait (new.trans same.toTold rfl).toOffers rfl (Nat.le_succ _) rfl absent
        (Nat.lt_succ_self _) rfl rfl

/-- Time and workers wake at once. -/
def Call.isPrompt : Call → Bool
  | .elapse _ | .restCrew => true
  | _ => false

/-- A call that can begin a wait or goes on with one, or wakes threads at once. -/
def Call.bearsOnWaits : Call → Bool
  | .createTask _ | .wait _ _ _ _ | .sleep _ _ _ | .monitorWait _ _ _ _ _ | .shutdown _ _
  | .turn _ | .elapse _ | .restCrew => true
  | _ => false

theorem told_heed (orderly : host.Orderly) {call : Call} (aside : call.bearsOnWaits = false) :
    Told (host.wakeUps call) host (host.heed call) ∧
      host.nextSerial ≤ (host.heed call).nextSerial := by
  cases spares : call.sparesObjects with
  | true =>
    have same : host.wakeUps call = call.wakeUps host := by
      cases call <;> first | rfl | cases spares
    have kept := host.kept_heed spares
    exact same ▸ ⟨kept.toTold, Nat.le_of_eq kept.nextSerial.symm⟩
  | false =>
    cases call with
    | createTask | wait | sleep | monitorWait | shutdown | turn | elapse | restCrew => cases aside
    | spawn => exact ⟨told_addThread orderly ⟨rfl, rfl⟩, Nat.le_refl _⟩
    | addSignal signal => exact ⟨host.told_addSignal signal, Nat.le_succ _⟩
    | clearSignal serial => exact ⟨host.told_clearSignal serial, Nat.le_refl _⟩
    | addSemaphore semaphore => exact ⟨host.told_addSemaphore semaphore, Nat.le_succ _⟩
    | releaseSemaphore serial slots =>
      simp only [wakeUps, Call.wakeUps, heed]
      cases found : host.semaphores.get? serial with
      | none =>
        have untold : host.slotWakeUps serial slots = [] := by simp [slotWakeUps, found]
        exact untold ▸ ⟨(Kept.refl host).toTold, Nat.le_refl _⟩
      | some semaphore =>
        exact ⟨host.told_releaseSemaphore found slots,
          Nat.le_of_eq (host.releaseSemaphore_nextSerial serial slots semaphore).symm⟩
    | addLock lock => exact ⟨host.told_addLock lock, Nat.le_succ _⟩
    | tryLock thread serial =>
      have silent : host.wakeUps (.tryLock thread serial) = [] := rfl
      rw [silent]
      simp only [heed]
      split
      · next entered made =>
        obtain ⟨lock, found, entered⟩ := Option.bind_eq_some_iff.1 made
        exact ⟨host.told_tryLock found entered, Nat.le_refl _⟩
      · exact ⟨(Kept.refl host).toTold, Nat.le_refl _⟩
    | leaveLock thread serial =>
      simp only [wakeUps, Call.wakeUps, heed]
      cases found : host.locks.get? serial with
      | none =>
        have untold : host.leaveWakeUps thread serial = [] := by simp [leaveWakeUps, found]
        exact untold ▸ ⟨(Kept.refl host).toTold, Nat.le_refl _⟩
      | some lock =>
        exact ⟨host.told_leaveLock thread found,
          Nat.le_of_eq (host.leaveLock_nextSerial thread serial lock).symm⟩
    | _ => cases spares

theorem splits_whenIdle (host : Host) (thread : ThreadId) {begun : Host}
    (starts : host.waits.get? thread = none → thread.value < host.nextThread →
      Splits host [] begun) : Splits host [] (host.whenIdle thread begun) := by
  unfold whenIdle
  split
  · next idle =>
    have parts : thread.value < host.nextThread ∧ host.waits.get? thread = none := by
      simpa [isIdle, Assoc.contains] using idle
    exact starts parts.2 parts.1
  · exact .of_kept (.refl host)

theorem splits (orderly : host.Orderly) {call : Call} (accepted : host.accepts call = true)
    (patient : call.isPrompt = false) : Splits host (host.wakeUps call) (host.heed call) := by
  cases bears : call.bearsOnWaits with
  | false =>
    obtain ⟨told, nextSerial⟩ := told_heed orderly bears
    exact .of_told told nextSerial
  | true =>
    cases call with
    | elapse | restCrew => cases patient
    | createTask parent => exact splits_createTask orderly parent
    | wait thread target timeout options =>
      exact host.splits_whenIdle thread fun absent numbered =>
        .of_startWait (.of_same rfl rfl rfl rfl rfl) rfl (Nat.le_refl _) rfl absent numbered
          accepted rfl
    | sleep thread span options =>
      exact host.splits_whenIdle thread fun absent numbered =>
        .of_startWait (.of_same rfl rfl rfl rfl rfl) rfl (Nat.le_refl _) rfl absent numbered rfl rfl
    | monitorWait thread serial cookie timeout options =>
      refine host.splits_whenIdle thread fun absent numbered => ?_
      unfold startMonitorWait
      split <;> exact .of_startWait (.of_same rfl rfl rfl rfl rfl) rfl (Nat.le_refl _) rfl absent
        numbered accepted rfl
    | shutdown thread timeout =>
      let closed := { host with crew := host.crew.shutdown.2 }
      have offers : Offers [] host closed := .of_same rfl rfl rfl rfl rfl
      exact host.splits_whenIdle thread fun absent numbered =>
        .of_startWait offers rfl (Nat.le_refl _) rfl absent numbered rfl rfl
    | turn thread =>
      exact .of_turned (host.turned thread fun wait found =>
        (orderly.waits thread wait found).proper)
    | _ => cases bears

theorem rouses_elapse (host : Host) (clock : Nat) :
    Rouses { host with clock := max host.clock clock } (host.elapse clock) :=
  ⟨fun _ wait => wait.isDue (max host.clock clock), rfl⟩

theorem rouses_restCrew (host : Host) :
    Rouses { host with crew := host.crew.rest } host.restCrew := by
  unfold restCrew
  simp only
  split
  · exact ⟨fun _ wait => awaitsWorkers wait, rfl⟩
  · exact .refl _

theorem Begun.of_rouses {other after : Host} (offers : Offers [] host other)
    (waits : other.waits = host.waits) (nextThread : host.nextThread ≤ other.nextThread)
    (nextSerial : other.nextSerial = host.nextSerial) (rouses : Rouses other after) :
    Begun host [] after := by
  obtain ⟨woken, rfl⟩ := rouses
  have roused : (other.rouse woken).waits = (host.rouse woken).waits := by simp only [rouse, waits]
  exact .roused (offers.rest _) roused nextThread nextSerial

theorem begin_of_patient (host : Host) {call : Call} (patient : call.isPrompt = false) :
    host.begin call =
      { host.heed call with waits := unwoken host.waits (host.heed call).waits } := by
  cases call with
  | elapse | restCrew => cases patient
  | _ => rfl

/-- Every call begins by making things available together with their wake-ups, or with a change to
one wait. -/
theorem begun_begin (orderly : host.Orderly) {call : Call} (accepted : host.accepts call = true) :
    Begun host (host.wakeUps call) (host.begin call) := by
  cases waiting : call.isPrompt with
  | true =>
    cases call with
    | elapse clock =>
      have later : Offers [] host { host with clock := max host.clock clock } :=
        .of_same rfl rfl rfl rfl rfl
      exact .of_rouses later rfl (Nat.le_refl _) rfl (host.rouses_elapse clock)
    | restCrew =>
      have rested : Offers [] host { host with crew := host.crew.rest } :=
        .of_same rfl rfl rfl rfl rfl
      exact .of_rouses rested rfl (Nat.le_refl _) rfl host.rouses_restCrew
    | _ => cases waiting
  | false =>
    rw [host.begin_of_patient waiting]
    exact (splits orderly accepted waiting).begun

/-- A call is its beginning, followed by its wake-ups. -/
theorem heed_eq_deliverAll (orderly : host.Orderly) {call : Call}
    (accepted : host.accepts call = true) :
    host.heed call = (host.begin call).deliverAll (host.wakeUps call) := by
  cases waiting : call.isPrompt with
  | true =>
    cases call with
    | elapse | restCrew => rfl
    | _ => cases waiting
  | false =>
    rw [host.begin_of_patient waiting]
    exact eq_deliverAll rfl (splits orderly accepted waiting).delivered

end Steward.Host

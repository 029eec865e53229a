import QuadControl.Ios.WdaText

/-! # What a result rests on

The device reports success where nothing has happened, so the methods look at the effect and
not at the status. A log beside the client notes the requests of each clone's latest method
and what became of them. Whatever other clones do and the device answers, nothing is forwarded
to a device that was last seen locked, nothing that may have taken effect is sent again, and
a result is what was last seen.
-/

namespace QuadControl.Ios.Wda

open Lib Lib.Interleaving

variable {Session Element : Type}

inductive Request (Element : Type) where
  /-- The request of a session call. -/
  | ask (task : Task)
  | unlock
  | type (text : Text) (element : Element)
  | readBack (element : Element)

/-- A request, the session it was sent to, and what became of it. -/
structure Exchange (Session Element : Type) where
  request : Request Element
  session : Session
  response : Response Element

def Task.asksLocked : Task → Bool
  | .locked | .beforeCommand _ | .beforeWake | .unlockFailed | .unlocked | .beforeText _ => true
  | _ => false

namespace Request

def asksLocked : Request Element → Bool
  | ask task => task.asksLocked
  | _ => false

/-- What is not to be forwarded to a locked device. -/
def forwards : Request Element → Bool
  | ask (.command _) | type _ _ => true
  | _ => false

/-- What does something to the device. -/
def acts : Request Element → Bool
  | ask (.command _) | ask .home | unlock | type _ _ => true
  | _ => false

theorem acts_of_forwards {request : Request Element} (forwards : request.forwards = true) :
    request.acts = true := by
  unfold Request.forwards at forwards
  split at forwards
  · rfl
  · rfl
  · cases forwards

end Request

namespace Exchange

variable (exchange : Exchange Session Element)

/-- It went to a session that is gone. -/
def lost : Bool :=
  match exchange.response with
  | .ok _ => false
  | .error message => isInvalidSession message

/-- It may have taken effect. -/
def acted : Bool := exchange.request.acts && !exchange.lost

def locked? : Option Bool :=
  match exchange.response with
  | .ok answer => answer.bool
  | .error _ => none

end Exchange

/-- What the device was last seen to be. -/
def lastLocked (exchanges : List (Exchange Session Element)) : Option Bool :=
  (exchanges.filter fun exchange => exchange.request.asksLocked).getLast?.bind Exchange.locked?

structure Log (Session Element : Type) where
  method : Method
  exchanges : List (Exchange Session Element)

def Log.add (log : Log Session Element) (exchange : Exchange Session Element) :
    Log Session Element :=
  { log with exchanges := log.exchanges ++ [exchange] }

/-- The exchange that an answer ends. -/
def Call.exchange? (call : Call Session Element) (action : Action Session Element) :
    Option (Exchange Session Element) :=
  match call, action with
  | .asking task session, .answer response | .reasking task _ session, .answer response =>
      some ⟨.ask task, session, response⟩
  | .unlocking session, .answer response => some ⟨.unlock, session, response⟩
  | .typing text element _ session, .answer response =>
      some ⟨.type text element, session, response⟩
  | .confirming _ element _ session, .answer response =>
      some ⟨.readBack element, session, response⟩
  | _, _ => none

/-- The log of each clone's latest method. -/
abbrev Logs (Session Element : Type) := Nat → Option (Log Session Element)

def noteExchange (me : Nat) (_ : Shared Session) (own : Local Session Element)
    (action : Action Session Element) (logs : Logs Session Element) : Logs Session Element :=
  match action with
  | .begin method => Function.update logs me (some ⟨method, []⟩)
  | _ =>
      match own.call.exchange? action with
      | some exchange => Function.update logs me ((logs me).map fun log => log.add exchange)
      | none => logs

def initialLogged (sessionId : Option Session) (mjpeg : Option Settings) :
    Pool (Shared Session × Logs Session Element) (Local Session Element) :=
  let start : Pool (Shared Session) (Local Session Element) := initial sessionId mjpeg
  ⟨(start.shared, fun _ => none), start.threads⟩

/-! ### What holds of a log -/

/-- What is forwarded was preceded by a look at the lock, which was open; and at most one request
    may have taken effect. -/
structure Careful (exchanges : List (Exchange Session Element)) : Prop where
  guarded : ∀ before exchange after, exchanges = before ++ exchange :: after →
    exchange.request.forwards = true → lastLocked before = some false
  once : (exchanges.filter Exchange.acted).length ≤ 1

/-- `element/active` was answered with the element. -/
def Found (exchanges : List (Exchange Session Element)) (text : Text) (element : Element)
    (source : Session) : Prop :=
  ∃ answer : Answer Element, answer.element = some element ∧
    ⟨.ask (.activeElement text), source, .ok answer⟩ ∈ exchanges

/-- The text was typed into an element that was found, and this is what was read of it. -/
def Typed (exchanges : List (Exchange Session Element)) (text : Text) (answer : Answer Element) :
    Prop :=
  ∃ before element source session acknowledged, Found before text element source ∧
    exchanges = before ++ [⟨.type text element, session, .ok acknowledged⟩,
      ⟨.readBack element, session, .ok answer⟩]

/-- The request that a method ends with. -/
def Method.order : Method → Option Task
  | .home => some .home
  | .command order => some (.command order)
  | _ => none

/-- What the result of a method says of the device is what was last seen of it. -/
structure Verified (method : Method) (exchanges : List (Exchange Session Element))
    (result : Except Error Value) : Prop where
  order : ∀ task value, method.order = some task → result = .ok value →
    ∃ before session answer, exchanges = before ++ [⟨.ask task, session, .ok answer⟩]
  wake : ∀ value, method = .wake → result = .ok value → lastLocked exchanges = some false
  query : ∀ locked, result = .ok (.locked locked) → lastLocked exchanges = some locked
  text : ∀ text value, method = .sendText text → result = .ok value →
    ∃ answer, Typed exchanges text answer ∧ text <:+: answer.text.getD []
  unconfirmed : result = .error .textUnconfirmed →
    ∃ text answer, method = .sendText text ∧ Typed exchanges text answer ∧
      ¬ text <:+: answer.text.getD []
  locked : result = .error .deviceLocked → lastLocked exchanges = some true ∧
    ∀ exchange ∈ exchanges, exchange.request.forwards = false

/-! ### One more exchange -/

section

variable {exchanges : List (Exchange Session Element)} {exchange : Exchange Session Element}

theorem lastLocked_add : lastLocked (exchanges ++ [exchange]) =
    if exchange.request.asksLocked then exchange.locked? else lastLocked exchanges := by
  unfold lastLocked
  rw [List.filter_append]
  cases asks : exchange.request.asksLocked <;> simp [asks]

def Untouched (exchanges : List (Exchange Session Element)) : Prop :=
  ∀ exchange ∈ exchanges, exchange.request.acts = false

def Unforwarded (exchanges : List (Exchange Session Element)) : Prop :=
  ∀ exchange ∈ exchanges, exchange.request.forwards = false

def Untaken (exchanges : List (Exchange Session Element)) : Prop :=
  ∀ exchange ∈ exchanges, exchange.acted = false

theorem forall_add {property : Exchange Session Element → Prop}
    (before : ∀ exchange ∈ exchanges, property exchange) (last : property exchange) :
    ∀ exchange' ∈ exchanges ++ [exchange], property exchange' := by
  intro exchange' inside
  rcases List.mem_append.mp inside with inside | inside
  · exact before exchange' inside
  · obtain rfl := List.mem_singleton.mp inside
    exact last

theorem Untouched.unforwarded (untouched : Untouched exchanges) : Unforwarded exchanges := by
  intro exchange inside
  by_contra forwards
  have acts := Request.acts_of_forwards (by simpa using forwards)
  rw [untouched exchange inside] at acts
  cases acts

theorem Untouched.untaken (untouched : Untouched exchanges) : Untaken exchanges := by
  intro exchange inside
  simp [Exchange.acted, untouched exchange inside]

theorem Untouched.add (untouched : Untouched exchanges) (session : Session)
    (response : Response Element) (task : Task)
    (asks : (Request.ask task : Request Element).acts = false) :
    Untouched (exchanges ++ [⟨.ask task, session, response⟩]) :=
  forall_add untouched asks

theorem Unforwarded.add (unforwarded : Unforwarded exchanges) (session : Session)
    (response : Response Element) (task : Task)
    (asks : (Request.ask task : Request Element).forwards = false) :
    Unforwarded (exchanges ++ [⟨.ask task, session, response⟩]) :=
  forall_add unforwarded asks

theorem careful_nil : Careful ([] : List (Exchange Session Element)) where
  guarded before exchange after whole := by simp at whole
  once := Nat.zero_le _

theorem Careful.add (careful : Careful exchanges)
    (guarded : exchange.request.forwards = true → lastLocked exchanges = some false)
    (once : exchange.acted = true → Untaken exchanges) : Careful (exchanges ++ [exchange]) where
  guarded before next after whole forwards := by
    rcases List.eq_nil_or_concat after with rfl | ⟨after, last, rfl⟩
    · obtain ⟨rfl, same⟩ := List.append_inj' whole rfl
      obtain rfl := List.singleton_inj.mp same
      exact guarded forwards
    · rw [List.concat_eq_append, ← List.cons_append, ← List.append_assoc] at whole
      obtain ⟨rfl, -⟩ := List.append_inj' whole rfl
      exact careful.guarded before next after rfl forwards
  once := by
    rw [List.filter_append]
    cases acted : exchange.acted with
    | false => simpa [acted] using careful.once
    | true =>
        have none : exchanges.filter Exchange.acted = [] :=
          List.filter_eq_nil_iff.mpr fun other inside => by simp [once acted other inside]
        simp [acted, none]

end

/-! ### What a clone knows -/

/-- What has been done when a method comes to a session call. -/
def Ready (method : Method) (exchanges : List (Exchange Session Element)) : Task → Prop
  | .windowSize => method = .windowSize
  | .locked => method = .locked
  | .activeApp => method = .activeApp
  | .settings settings => method = .configureMjpeg settings
  | .home => method = .home ∧ Untaken exchanges
  | .beforeCommand order => method = .command order ∧ Untouched exchanges
  | .command order =>
      method = .command order ∧ Untaken exchanges ∧ lastLocked exchanges = some false
  | .beforeWake => method = .wake ∧ Untouched exchanges
  | .unlockFailed | .unlocked => method = .wake ∧ Unforwarded exchanges
  | .beforeText text => method = .sendText text ∧ Untouched exchanges
  | .activeElement text =>
      method = .sendText text ∧ Untouched exchanges ∧ lastLocked exchanges = some false

/-- What a clone knows where it stands. -/
def Doing (method : Method) (exchanges : List (Exchange Session Element)) :
    Call Session Element → Prop
  | .idle none => False
  | .idle (some result) => Verified method exchanges result
  | .calling task | .asking task _ | .blocked task _ | .comparing task _ | .creating task _
  | .storing task _ _ | .created task _ | .replaying task _ _ | .configuring task _ _ _
  | .retrying task _ | .reasking task _ _ => Ready method exchanges task
  | .waking | .unlocking _ =>
      method = .wake ∧ Untouched exchanges ∧ lastLocked exchanges = some true
  | .settling => method = .wake ∧ Unforwarded exchanges ∧ lastLocked exchanges = some true
  | .holding text element source | .typing text element source _ =>
      method = .sendText text ∧ Untouched exchanges ∧ lastLocked exchanges = some false ∧
        Found exchanges text element source
  | .confirming text element source session =>
      method = .sendText text ∧ ∃ before acknowledged, Found before text element source ∧
        exchanges = before ++ [⟨.type text element, session, .ok acknowledged⟩]

section

variable {method : Method} {exchanges : List (Exchange Session Element)}
  {exchange : Exchange Session Element}

/-- A failure that says nothing about the device. -/
def Plain : Error → Prop
  | .wdaSessionFailed _ | .activateAppFailed _ | .noActiveElement => True
  | .deviceLocked | .textUnconfirmed => False

theorem Verified.failed {error : Error} (plain : Plain error) :
    Verified method exchanges (.error error) where
  order _ _ _ impossible := by cases impossible
  wake _ _ impossible := by cases impossible
  query _ impossible := by cases impossible
  text _ _ _ impossible := by cases impossible
  unconfirmed same := by
    cases same
    exact plain.elim
  locked same := by
    cases same
    exact plain.elim

theorem Verified.deviceLocked (unforwarded : Unforwarded exchanges)
    (locked : lastLocked exchanges = some true) :
    Verified method exchanges (.error .deviceLocked) where
  order _ _ _ impossible := by cases impossible
  wake _ _ impossible := by cases impossible
  query _ impossible := by cases impossible
  text _ _ _ impossible := by cases impossible
  unconfirmed impossible := by cases impossible
  locked _ := ⟨locked, unforwarded⟩

theorem plain_wrap (task : Task) (message : Text) : Plain (task.wrap message) := by
  unfold Task.wrap
  split
  · split <;> trivial
  · trivial
  · trivial

theorem Doing.sessionFailed (message : String) :
    Doing method exchanges (sessionFailed message : Call Session Element) :=
  Verified.failed trivial

/-- What `locked` gives is what was seen last. -/
theorem Doing.whenLocked {answer : Answer Element} {locked unlocked : Call Session Element}
    (whenLocked : answer.bool = some true → Doing method exchanges locked)
    (whenUnlocked : answer.bool = some false → Doing method exchanges unlocked) :
    Doing method exchanges (answer.whenLocked locked unlocked) := by
  unfold Answer.whenLocked
  split
  · exact .sessionFailed _
  · exact whenLocked ‹_›
  · exact whenUnlocked ‹_›

theorem lastLocked_asked {task : Task} (asks : task.asksLocked = true) {session : Session}
    {answer : Answer Element} :
    lastLocked (exchanges ++ [⟨.ask task, session, .ok answer⟩]) = answer.bool := by
  rw [lastLocked_add]
  exact if_pos asks

/-- A request that says nothing of the lock. -/
theorem lastLocked_other (other : exchange.request.asksLocked = false) :
    lastLocked (exchanges ++ [exchange]) = lastLocked exchanges := by
  rw [lastLocked_add, other, if_neg (by decide)]

/-- The success of a method that looks, or that does not look at all. -/
theorem Verified.ok {value : Value} (order : method.order = none)
    (text : ∀ text, method ≠ .sendText text)
    (wake : method = .wake → lastLocked exchanges = some false)
    (query : ∀ locked, value = .locked locked → lastLocked exchanges = some locked) :
    Verified method exchanges (.ok value) where
  order _ _ some _ := by
    rw [order] at some
    cases some
  wake _ same _ := wake same
  query locked same := query locked (Except.ok.inj same)
  text words _ same _ := absurd same (text words)
  unconfirmed impossible := by cases impossible
  locked impossible := by cases impossible

/-- The success of a method that ends with an order. -/
theorem verified_order {task : Task} (ordered : method.order = some task) {session : Session}
    {answer : Answer Element} :
    Verified method (exchanges ++ [⟨.ask task, session, .ok answer⟩]) (.ok .done) where
  order other _ same _ := by
    obtain rfl := Option.some.inj (ordered.symm.trans same)
    exact ⟨exchanges, session, answer, rfl⟩
  wake _ same := by
    subst same
    cases ordered
  query _ impossible := by cases impossible
  text _ _ same := by
    subst same
    cases ordered
  unconfirmed impossible := by cases impossible
  locked impossible := by cases impossible

/-- What a method does with the answer to a session call. -/
theorem Ready.proceed {task : Task} (ready : Ready method exchanges task) (session : Session)
    (answer : Answer Element) :
    Doing method (exchanges ++ [⟨.ask task, session, .ok answer⟩])
      (task.proceed session answer) := by
  have seen : task.asksLocked = true →
      lastLocked (exchanges ++ [⟨.ask task, session, .ok answer⟩]) = answer.bool :=
    fun asks => lastLocked_asked asks
  cases task with
  | windowSize =>
      obtain rfl : method = _ := ready
      simp only [Task.proceed]
      split
      · exact .sessionFailed _
      · exact .sessionFailed _
      · exact .ok rfl (by simp) (by simp) (by simp)
  | locked =>
      obtain rfl : method = _ := ready
      refine .whenLocked (fun locked => ?_) fun unlocked => ?_
      · exact .ok rfl (by simp) (by simp) fun _ same =>
          Value.locked.inj same ▸ (seen rfl).trans locked
      · exact .ok rfl (by simp) (by simp) fun _ same =>
          Value.locked.inj same ▸ (seen rfl).trans unlocked
  | activeApp =>
      obtain rfl : method = _ := ready
      simp only [Task.proceed]
      split
      · exact .sessionFailed _
      · exact .sessionFailed _
      · exact .ok rfl (by simp) (by simp) (by simp)
  | home =>
      obtain ⟨rfl, -⟩ := ready
      exact verified_order rfl
  | beforeCommand order =>
      obtain ⟨rfl, untouched⟩ := ready
      have asked := untouched.add session (.ok answer) (.beforeCommand order) rfl
      refine .whenLocked (fun locked => ?_) fun unlocked => ?_
      · exact .deviceLocked asked.unforwarded ((seen rfl).trans locked)
      · exact ⟨rfl, asked.untaken, (seen rfl).trans unlocked⟩
  | command order =>
      obtain ⟨rfl, -⟩ := ready
      exact verified_order rfl
  | beforeWake =>
      obtain ⟨rfl, untouched⟩ := ready
      have asked := untouched.add session (.ok answer) .beforeWake rfl
      refine .whenLocked (fun locked => ?_) fun unlocked => ?_
      · exact ⟨rfl, asked, (seen rfl).trans locked⟩
      · exact .ok rfl (by simp) (fun _ => (seen rfl).trans unlocked) (by simp)
  | unlockFailed =>
      obtain ⟨rfl, unforwarded⟩ := ready
      have asked := unforwarded.add session (.ok answer) .unlockFailed rfl
      refine .whenLocked (fun locked => ?_) fun unlocked => ?_
      · exact .deviceLocked asked ((seen rfl).trans locked)
      · exact .ok rfl (by simp) (fun _ => (seen rfl).trans unlocked) (by simp)
  | unlocked =>
      obtain ⟨rfl, unforwarded⟩ := ready
      have asked := unforwarded.add session (.ok answer) .unlocked rfl
      refine .whenLocked (fun locked => ?_) fun unlocked => ?_
      · exact ⟨rfl, asked, (seen rfl).trans locked⟩
      · exact .ok rfl (by simp) (fun _ => (seen rfl).trans unlocked) (by simp)
  | beforeText text =>
      obtain ⟨rfl, untouched⟩ := ready
      have asked := untouched.add session (.ok answer) (.beforeText text) rfl
      refine .whenLocked (fun locked => ?_) fun unlocked => ?_
      · exact .deviceLocked asked.unforwarded ((seen rfl).trans locked)
      · exact ⟨rfl, asked, (seen rfl).trans unlocked⟩
  | activeElement text =>
      obtain ⟨rfl, untouched, unlocked⟩ := ready
      have asked := untouched.add session (.ok answer) (.activeElement text) rfl
      simp only [Task.proceed]
      split
      · exact Verified.failed trivial
      · rename_i element found
        exact ⟨rfl, asked, (lastLocked_other rfl).trans unlocked, answer, found,
          List.mem_append_right _ (.head _)⟩
  | settings settings =>
      obtain rfl : method = _ := ready
      exact .ok rfl (by simp) (by simp) (by simp)

theorem Ready.careful {task : Task} (ready : Ready method exchanges task)
    (careful : Careful exchanges) (session : Session) (response : Response Element) :
    Careful (exchanges ++ [⟨.ask task, session, response⟩]) := by
  refine careful.add (fun forwards => ?_) fun acted => ?_
  · cases task with
    | command order => exact ready.2.2
    | _ => cases forwards
  · have acts : (Request.ask task : Request Element).acts = true :=
      (Bool.and_eq_true_iff.mp acted).1
    cases task with
    | home => exact ready.2
    | command order => exact ready.2.1
    | _ => cases acts

/-- The request is lost with its session, and can be sent once more. -/
theorem Ready.again {task : Task} (ready : Ready method exchanges task) {message : Text}
    (invalid : isInvalidSession message = true) (session : Session) :
    Ready method (exchanges ++ [⟨.ask task, session, (.error message : Response Element)⟩])
      task := by
  have lost : (⟨.ask task, session, (.error message : Response Element)⟩ :
      Exchange Session Element).acted = false := by
    simp [Exchange.acted, Exchange.lost, invalid]
  cases task with
  | windowSize | locked | activeApp | settings => exact ready
  | home => exact ⟨ready.1, forall_add ready.2 lost⟩
  | beforeCommand | beforeWake | beforeText => exact ⟨ready.1, ready.2.add _ _ _ rfl⟩
  | command =>
      exact ⟨ready.1, forall_add ready.2.1 lost, (lastLocked_other rfl).trans ready.2.2⟩
  | unlockFailed | unlocked => exact ⟨ready.1, forall_add ready.2 rfl⟩
  | activeElement =>
      exact ⟨ready.1, ready.2.1.add _ _ _ rfl, (lastLocked_other rfl).trans ready.2.2⟩

theorem Doing.readBack {before : List (Exchange Session Element)} {text : Text} {element : Element}
    {source session : Session} {acknowledged : Answer Element}
    (found : Found before text element source) (answer : Answer Element) :
    Doing (.sendText text) (before ++ [⟨.type text element, session, .ok acknowledged⟩] ++
      [⟨.readBack element, session, .ok answer⟩])
      (Wda.readBack text answer : Call Session Element) := by
  have typed : Typed (before ++ [⟨.type text element, session, .ok acknowledged⟩] ++
      [⟨.readBack element, session, .ok answer⟩]) text answer :=
    ⟨before, element, source, session, acknowledged, found, by simp⟩
  unfold Wda.readBack
  split
  · rename_i inside
    exact {
      order := fun _ _ none _ => by cases none
      wake := fun _ impossible => by cases impossible
      query := fun _ impossible => by cases impossible
      text := fun words _ same _ => by
        cases same
        exact ⟨answer, typed, inside⟩
      unconfirmed := fun impossible => by cases impossible
      locked := fun impossible => by cases impossible }
  · rename_i absent
    exact {
      order := fun _ _ none _ => by cases none
      wake := fun _ impossible => by cases impossible
      query := fun _ impossible => by cases impossible
      text := fun _ _ _ impossible => by cases impossible
      unconfirmed := fun _ => ⟨text, answer, rfl, typed, absent⟩
      locked := fun impossible => by cases impossible }

theorem Doing.start (method : Method) :
    Doing method ([] : List (Exchange Session Element)) (method.start : Call Session Element) := by
  have untouched : Untouched ([] : List (Exchange Session Element)) := by simp [Untouched]
  unfold Method.start
  split
  · exact rfl
  · exact rfl
  · exact rfl
  · exact ⟨rfl, untouched.untaken⟩
  · exact Verified.failed trivial
  · exact ⟨rfl, untouched⟩
  · exact ⟨rfl, untouched⟩
  · exact .sessionFailed _
  · exact ⟨rfl, untouched⟩
  · exact rfl

/-- The log behind a step. -/
def logged (exchanges : List (Exchange Session Element)) (call : Call Session Element)
    (action : Action Session Element) : List (Exchange Session Element) :=
  exchanges ++ (call.exchange? action).toList

/-- What a clone knows behind its step. -/
theorem Doing.own [DecidableEq Session] {me : Nat} {shared shared' : Shared Session}
    {own own' : Local Session Element} {action : Action Session Element}
    (careful : Careful exchanges) (doing : Doing method exchanges own.call)
    (acted : advance me shared own action = some (shared', own'))
    (goesOn : ∀ method, action ≠ .begin method) :
    Careful (logged exchanges own.call action) ∧
      Doing method (logged exchanges own.call action) own'.call := by
  have still : ∀ {call}, Doing method exchanges call →
      Careful (exchanges ++ []) ∧ Doing method (exchanges ++ []) call := by
    intro call doing
    rw [List.append_nil]
    exact ⟨careful, doing⟩
  obtain ⟨call, tried⟩ := own
  unfold advance at acted
  split at acted
  all_goals
    try simp only at *
    subst_vars
    try simp only [Local.at] at acted
  · exact absurd rfl (goesOn _)
  · split at acted
    · cases acted
      exact still (.sessionFailed _)
    · cases acted
      exact still doing
  · cases acted
    exact ⟨Ready.careful doing careful _ _, Ready.proceed doing _ _⟩
  · split at acted
    · rename_i invalid
      cases acted
      exact ⟨Ready.careful doing careful _ _, Ready.again doing invalid _⟩
    · cases acted
      exact ⟨Ready.careful doing careful _ _, Verified.failed (plain_wrap _ _)⟩
  · split at acted
    · cases acted
      exact still doing
    · cases acted
  · split at acted
    · cases acted
      exact still (.sessionFailed _)
    · split at acted
      · cases acted
        exact still doing
      · cases acted
        exact still doing
  · cases acted
    exact still (Verified.failed trivial)
  · cases acted
    exact still (.sessionFailed _)
  · cases acted
    exact still doing
  · cases acted
    exact still doing
  · split at acted
    all_goals
      cases acted
      exact still doing
  · split at acted
    · cases acted
      exact still (.sessionFailed _)
    · cases acted
      exact still doing
  · cases acted
    exact still doing
  · cases acted
    exact still (Verified.failed trivial)
  · split at acted
    · cases acted
      exact still (.sessionFailed _)
    · cases acted
      exact still doing
  · cases acted
    exact ⟨Ready.careful doing careful _ _, Ready.proceed doing _ _⟩
  · cases acted
    exact ⟨Ready.careful doing careful _ _, Verified.failed (plain_wrap _ _)⟩
  -- `wake`
  · split at acted
    · cases acted
      exact still (.sessionFailed _)
    · cases acted
      exact still doing
  · cases acted
    obtain ⟨wake, untouched, locked⟩ := doing
    exact ⟨careful.add (by rintro ⟨⟩) fun _ => untouched.untaken, wake,
      forall_add untouched.unforwarded rfl⟩
  · cases acted
    obtain ⟨wake, untouched, locked⟩ := doing
    exact ⟨careful.add (by rintro ⟨⟩) fun _ => untouched.untaken, wake,
      forall_add untouched.unforwarded rfl⟩
  · cases acted
    exact still ⟨doing.1, doing.2.1⟩
  · cases acted
    exact still (.deviceLocked doing.2.1 doing.2.2)
  -- `send_text`
  · split at acted
    · cases acted
      exact still (.sessionFailed _)
    · cases acted
      exact still doing
  · cases acted
    obtain ⟨rfl, untouched, unlocked, found⟩ := doing
    exact ⟨careful.add (fun _ => unlocked) fun _ => untouched.untaken, rfl, _, _, found, rfl⟩
  · cases acted
    obtain ⟨rfl, before, acknowledged, found, rfl⟩ := doing
    exact ⟨careful.add (by rintro ⟨⟩) (by rintro ⟨⟩), .readBack found _⟩
  · cases acted
    obtain ⟨rfl, untouched, unlocked, found⟩ := doing
    exact ⟨careful.add (fun _ => unlocked) fun _ => untouched.untaken, Verified.failed trivial⟩
  · cases acted
    exact ⟨careful.add (by rintro ⟨⟩) (by rintro ⟨⟩), Verified.failed trivial⟩
  · cases acted

end

/-! ### Every run -/

/-- The log of a clone, and where it stands. -/
def Accounts (log : Option (Log Session Element)) (call : Call Session Element) : Prop :=
  match log with
  | none => call = .idle none
  | some log => Careful log.exchanges ∧ Doing log.method log.exchanges call

section

variable {me : Nat} {shared : Shared Session} {own : Local Session Element}
  {action : Action Session Element} {logs : Logs Session Element}

theorem noteExchange_eq (goesOn : ∀ method, action ≠ .begin method) :
    noteExchange me shared own action logs =
      match own.call.exchange? action with
      | some exchange => Function.update logs me ((logs me).map fun log => log.add exchange)
      | none => logs := by
  cases action with
  | begin method => exact absurd rfl (goesOn method)
  | go | answer | mint | expire => rfl

theorem noteExchange_self (goesOn : ∀ method, action ≠ .begin method) :
    noteExchange me shared own action logs me = (logs me).map fun log =>
      { log with exchanges := logged log.exchanges own.call action } := by
  rw [noteExchange_eq goesOn]
  unfold logged
  cases own.call.exchange? action with
  | none => simp
  | some exchange =>
      simp only [Function.update_self]
      rfl

theorem noteExchange_other {i : Nat} (different : i ≠ me) :
    noteExchange me shared own action logs i = logs i := by
  by_cases begins : ∃ method, action = .begin method
  case pos =>
      obtain ⟨method, rfl⟩ := begins
      exact Function.update_of_ne different ..
  case neg =>
      rw [noteExchange_eq fun method same => begins ⟨method, same⟩]
      cases own.call.exchange? action with
      | none => rfl
      | some exchange => exact Function.update_of_ne different ..

end

/-- A clone's own step. -/
theorem Accounts.own [DecidableEq Session] {me : Nat} {shared shared' : Shared Session}
    {own own' : Local Session Element} {action : Action Session Element}
    {logs : Logs Session Element} (accounts : Accounts (logs me) own.call)
    (acted : advance me shared own action = some (shared', own')) :
    Accounts (noteExchange me shared own action logs me) own'.call := by
  by_cases begins : ∃ method, action = .begin method
  case pos =>
      obtain ⟨method, rfl⟩ := begins
      obtain ⟨call, tried⟩ := own
      cases call with
      | idle last =>
          cases acted
          show Accounts (Function.update logs me (some ⟨method, []⟩) me) method.start
          rw [Function.update_self]
          exact ⟨careful_nil, .start method⟩
      | _ => cases acted
  case neg =>
      have goesOn : ∀ method, action ≠ .begin method :=
        fun method same => begins ⟨method, same⟩
      rw [noteExchange_self goesOn]
      cases log : logs me with
      | none =>
          rw [log] at accounts
          obtain ⟨call, tried⟩ := own
          obtain rfl : call = .idle none := accounts
          cases action with
          | begin method => exact absurd rfl (goesOn method)
          | go | answer | mint | expire => cases acted
      | some log =>
          rw [log] at accounts
          exact Doing.own accounts.1 accounts.2 acted goesOn

theorem Accounts.step [DecidableEq Session]
    {pool next : Pool (Shared Session × Logs Session Element) (Local Session Element)}
    {event : Event (Action Session Element)}
    (invariant : Everywhere (fun _ => True) (fun i shared own => Accounts (shared.2 i) own.call)
      pool)
    (stepped : Interleaving.step (noted noteExchange advance) pool event = some next) :
    Everywhere (fun _ => True) (fun i shared own => Accounts (shared.2 i) own.call) next := by
  refine Everywhere.step invariant stepped (fun shared own acted => ⟨trivial, ?_⟩)
    (fun shared own i acted different theirs => ?_)
  · obtain ⟨shared, own, acted, same⟩ := noted_some acted
    cases same
    exact (invariant.2 event.1).own acted
  · obtain ⟨shared, own, acted, same⟩ := noted_some acted
    cases same
    simpa only [noteExchange_other different] using theirs

/-- In every run of any number of clones, whatever the device answers: what a clone has sent is
    careful all along, and what its method returns is verified by what it was answered. -/
theorem results_verified [DecidableEq Session] (sessionId : Option Session)
    (mjpeg : Option Settings) (events : List (Event (Action Session Element)))
    (final : Pool (Shared Session × Logs Session Element) (Local Session Element))
    (ran : run (noted noteExchange advance) (initialLogged sessionId mjpeg) events = some final)
    (clone : Nat) (log : Log Session Element) (latest : final.shared.2 clone = some log) :
    Careful log.exchanges ∧ ∀ result, (final.threads clone).call = .idle (some result) →
      Verified log.method log.exchanges result := by
  have start : Everywhere (fun _ => True) (fun i shared own => Accounts (shared.2 i) own.call)
      (initialLogged sessionId mjpeg :
        Pool (Shared Session × Logs Session Element) (Local Session Element)) :=
    ⟨trivial, fun _ => rfl⟩
  have accounts : Accounts (final.shared.2 clone) (final.threads clone).call :=
    (run_invariant (fun _ _ _ invariant _ stepped => Accounts.step invariant stepped) start
      (meets_trivial _ _) ran).2 clone
  rw [latest] at accounts
  refine ⟨accounts.1, fun result here => ?_⟩
  have doing := accounts.2
  rw [here] at doing
  exact doing

/-- A tap whose look at the lock is lost with its session. -/
def lostTap : List (Event (Action Nat Nat)) :=
  [(0, .begin (.command .tap)), (0, .go), (0, .answer (.error invalidSession)), (0, .go), (0, .go),
    (0, .mint (.ok (some 1))), (0, .go), (0, .go), (0, .go), (0, .answer (.ok unlockedAnswer)),
    (0, .go), (0, .answer (.ok emptyAnswer))]

theorem results_verified_lostTap : ∃ final log,
    run (noted noteExchange advance) (initialLogged (some 0) none) lostTap = some final ∧
      final.shared.2 0 = some log ∧ (final.threads 0).call = .idle (some (.ok .done)) ∧
      Careful log.exchanges ∧ Verified log.method log.exchanges (.ok .done) := by
  refine ⟨_, _, rfl, rfl, rfl, ?_⟩
  have verified := results_verified (some 0) none lostTap _ rfl 0 _ rfl
  exact ⟨verified.1, verified.2 _ rfl⟩

end QuadControl.Ios.Wda

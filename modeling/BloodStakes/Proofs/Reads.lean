import BloodStakes.Proofs.Chance
import BloodStakes.Proofs.Run

/-!
Reads. A read stores nothing and answers for what is stored. Asking for the moves takes a seed
though, so the requests that come later are played with other seeds, and those that draw show it.
-/
namespace BloodStakes.Service

/-- What can be read of a service. -/
inductive Read where
  | table (player : PlayerId)
  | availableMoves (player : PlayerId)

/-- What can be asked of a service. -/
inductive Call where
  | createPlayer (username : String)
  | createGuest (time : Nat)
  | perform (player : PlayerId) (request : Request)
  | read (read : Read)

inductive Answer where
  | player (result : Except PlayError Player)
  | report (result : Except PlayError Report)
  | table (result : Except PlayError Table)
  | moves (result : Except PlayError (List Move))

def read (service : Service) : Read → Answer × Service
  | .table player => (.table (service.table player), service)
  | .availableMoves player =>
    let (result, service) := service.availableMoves player
    (.moves result, service)

def answer (service : Service) : Call → Answer × Service
  | .createPlayer username =>
    let (result, service) := service.createPlayer username
    (.player result, service)
  | .createGuest time =>
    let (result, service) := service.createGuest time
    (.player result, service)
  | .perform player request =>
    let (result, service) := service.perform player request
    (.report result, service)
  | .read read => service.read read

/-- The answers to calls in order. The reads that are put in between go unanswered. -/
def answerAll (service : Service) : List (Call ⊕ Read) → List Answer × Service
  | [] => ([], service)
  | .inl call :: script =>
    let (answer, service) := service.answer call
    let (answers, service) := service.answerAll script
    (answer :: answers, service)
  | .inr read :: script => (service.read read).2.answerAll script

/-- The calls without the reads in between. -/
def callsOf (script : List (Call ⊕ Read)) : List Call := script.filterMap Sum.getLeft?

/-- The answers to the calls alone. -/
def answerCalls (service : Service) (calls : List Call) : List Answer × Service :=
  service.answerAll (calls.map .inl)

def Call.mayDraw : Call → Bool
  | .perform _ request => request.mayDraw
  | _ => false

/-- Whether a read is handed a seed. -/
def Read.takesSeed (service : Service) : Read → Bool
  | .table _ => false
  | .availableMoves player => (service.store.load player).isOk

/-- No call that may draw comes after a read in between that has taken a seed. -/
def undisturbed (service : Service) : List (Call ⊕ Read) → Bool
  | [] => true
  | .inl call :: script => (service.answer call).2.undisturbed script
  | .inr read :: script =>
    if read.takesSeed service then (callsOf script).all fun call => !call.mayDraw
    else service.undisturbed script

/-- The service with another number of seeds handed out. -/
def atNonce (service : Service) (nonce : UInt64) : Service := { service with nonce }

section
variable (service : Service) (nonce : UInt64)

@[simp] theorem atNonce_house : (service.atNonce nonce).house = service.house := rfl

@[simp] theorem atNonce_store : (service.atNonce nonce).store = service.store := rfl

@[simp] theorem atNonce_self : service.atNonce service.nonce = service := rfl

theorem openSession_of_error {player : PlayerId} {e : StoreError}
    (h : service.store.load player = .error e) :
    service.openSession player = (.error (.store e), service) := by
  simp only [openSession, h]

theorem openSession_of_ok {player : PlayerId} {table : Table}
    (h : service.store.load player = .ok table) : ∃ rng,
      service.openSession player = (.ok { table, rng }, service.atNonce (service.nonce + 1)) := by
  simp only [openSession, h, atNonce]
  exact ⟨_, rfl⟩

theorem read_eq (read : Read) : (service.read read).2 =
    service.atNonce (service.nonce + if read.takesSeed service then 1 else 0) := by
  cases read with
  | table player => simp [Service.read, Read.takesSeed, atNonce]
  | availableMoves player =>
    cases hload : service.store.load player with
    | ok table =>
      obtain ⟨rng, hopen⟩ := openSession_of_ok service hload
      have htakes : (Read.availableMoves player).takesSeed service = true := by
        simp only [Read.takesSeed, hload]
        rfl
      simp only [Service.read, availableMoves, hopen, htakes, if_true]
    | error e =>
      have htakes : (Read.availableMoves player).takesSeed service = false := by
        simp only [Read.takesSeed, hload]
        rfl
      simp [Service.read, availableMoves, openSession_of_error service hload, htakes, atNonce]

private theorem read_atNonce (read : Read) :
    ((service.atNonce nonce).read read).1 = (service.read read).1 := by
  cases read with
  | table player => rfl
  | availableMoves player =>
    cases hload : service.store.load player with
    | ok table =>
      obtain ⟨rng, hopen⟩ := openSession_of_ok service hload
      obtain ⟨rng', hopen'⟩ := openSession_of_ok (service.atNonce nonce) hload
      simp only [Service.read, availableMoves, hopen, hopen']
      rfl
    | error e =>
      simp only [Service.read, availableMoves, openSession_of_error service hload,
        openSession_of_error (service.atNonce nonce) hload]

theorem addPlayer_atNonce (player : PlayerId → Player) :
    (service.atNonce nonce).addPlayer player =
      ((service.addPlayer player).1, (service.addPlayer player).2.atNonce nonce) := by
  simp only [addPlayer, atNonce]
  cases service.store.insertPlayer (player service.nextPlayer) <;> rfl

private theorem persist_reseed (s : Session) (rng : Rng) (store : Store) :
    (s.reseed rng).persist store =
      (s.persist store).map fun (store, s) => (store, s.reseed rng) := by
  unfold Session.persist
  rw [show (s.reseed rng).changes = s.changes from rfl, Session.reseed_table]
  cases s.changes.isEmpty with
  | true => rfl
  | false => cases store.commit s.table.player.id s.changes <;> rfl

private theorem perform_atNonce {request : Request} (h : request.mayDraw = false)
    (player : PlayerId) :
    ∃ nonce', (service.atNonce nonce).perform player request =
      ((service.perform player request).1, (service.perform player request).2.atNonce nonce') := by
  cases hload : service.store.load player with
  | error e =>
    simp only [perform, openSession_of_error service hload,
      openSession_of_error (service.atNonce nonce) hload]
    exact ⟨nonce, rfl⟩
  | ok table =>
    obtain ⟨rng, hopen⟩ := openSession_of_ok service hload
    obtain ⟨rng', hopen'⟩ := openSession_of_ok (service.atNonce nonce) hload
    have hplay : (request.play service.house).run { table, rng := rng' } =
        Play.reseed rng' ((request.play service.house).run { table, rng }) :=
      request.play_chanceless h service.house { table, rng } rng'
    refine ⟨nonce + 1, ?_⟩
    simp only [perform, hopen, hopen', atNonce_house, atNonce_store, hplay]
    cases (request.play service.house).run { table, rng } with
    | error e s => rfl
    | ok reply s =>
      simp only [Play.reseed, persist_reseed]
      cases s.persist service.store <;> rfl

private theorem answer_atNonce {call : Call} (h : call.mayDraw = false) :
    ∃ nonce', (service.atNonce nonce).answer call =
      ((service.answer call).1, (service.answer call).2.atNonce nonce') := by
  cases call with
  | createPlayer username =>
    simp only [answer, createPlayer, addPlayer_atNonce]
    exact ⟨nonce, rfl⟩
  | createGuest time =>
    simp only [answer, createGuest, addPlayer_atNonce]
    exact ⟨nonce, rfl⟩
  | perform player request =>
    obtain ⟨nonce', hperform⟩ := perform_atNonce service nonce h player
    simp only [answer, hperform]
    exact ⟨nonce', rfl⟩
  | read read =>
    refine ⟨((service.atNonce nonce).read read).2.nonce,
      Prod.ext (read_atNonce service nonce read) ?_⟩
    simp only [answer, read_eq]
    rfl

end

private theorem answerAll_atNonce {script : List (Call ⊕ Read)}
    (h : ∀ call ∈ callsOf script, call.mayDraw = false) (service : Service) (nonce : UInt64) :
    ∃ nonce', (service.atNonce nonce).answerAll script =
      ((service.answerCalls (callsOf script)).1,
        (service.answerCalls (callsOf script)).2.atNonce nonce') := by
  induction script generalizing service nonce with
  | nil => exact ⟨nonce, rfl⟩
  | cons entry script ih =>
    cases entry with
    | inl call =>
      have hcalls : callsOf (.inl call :: script) = call :: callsOf script := rfl
      rw [hcalls, List.forall_mem_cons] at h
      obtain ⟨nonce', hanswer⟩ := answer_atNonce service nonce h.1
      obtain ⟨nonce'', hrest⟩ := ih h.2 (service.answer call).2 nonce'
      refine ⟨nonce'', ?_⟩
      simp only [answerAll, hanswer, hrest]
      rfl
    | inr read =>
      simp only [answerAll, read_eq]
      exact ih h service _

private theorem answerAll_undisturbed {script : List (Call ⊕ Read)} {service : Service}
    (h : service.undisturbed script = true) :
    ∃ nonce, service.answerAll script =
      ((service.answerCalls (callsOf script)).1,
        (service.answerCalls (callsOf script)).2.atNonce nonce) := by
  induction script generalizing service with
  | nil => exact ⟨service.nonce, rfl⟩
  | cons entry script ih =>
    cases entry with
    | inl call =>
      have hlater : (service.answer call).2.undisturbed script = true := h
      obtain ⟨nonce, hrest⟩ := ih hlater
      refine ⟨nonce, ?_⟩
      simp only [answerAll, hrest]
      rfl
    | inr read =>
      simp only [answerAll, read_eq]
      cases htakes : read.takesSeed service with
      | true =>
        simp only [undisturbed, htakes, if_true, List.all_eq_true, Bool.not_eq_true'] at h
        exact answerAll_atNonce h service _
      | false =>
        simp only [undisturbed, htakes, Bool.false_eq_true, if_false] at h
        simp only [Bool.false_eq_true, if_false, UInt64.add_zero, atNonce_self]
        exact ih h

theorem undisturbed_of_tables {script : List (Call ⊕ Read)}
    (h : ∀ read, .inr read ∈ script → ∃ player, read = .table player) (service : Service) :
    service.undisturbed script = true := by
  induction script generalizing service with
  | nil => rfl
  | cons entry script ih =>
    have hrest (read : Read) (hread : .inr read ∈ script) : ∃ player, read = .table player :=
      h read (List.mem_cons_of_mem entry hread)
    cases entry with
    | inl call => exact ih hrest (service.answer call).2
    | inr read =>
      obtain ⟨player, rfl⟩ := h read List.mem_cons_self
      exact ih hrest service

/-- No read changes more than the number of seeds handed out. Reads can be put in anywhere, as long
as nothing is drawn after one that takes a seed: every call gets the answer it would get without
them, and the same tables are stored. -/
theorem reads_unobservable (service : Service) (script : List (Call ⊕ Read)) :
    (∀ read : Read, (service.read read).2 =
      service.atNonce (service.nonce + if read.takesSeed service then 1 else 0)) ∧
    (service.undisturbed script = true →
      (service.answerAll script).1 = (service.answerCalls (callsOf script)).1 ∧
      (service.answerAll script).2.store = (service.answerCalls (callsOf script)).2.store) := by
  refine ⟨service.read_eq, fun h => ?_⟩
  obtain ⟨nonce, hscript⟩ := answerAll_undisturbed h
  rw [hscript]
  exact ⟨rfl, rfl⟩

def adaService : Service := (createPlayer { house := smallHouse, seed := 7 } "Ada").2

/-- The only read that takes a seed comes before a surrender. -/
def quietScript : List (Call ⊕ Read) :=
  [.inr (.table 1), .inl (.perform 1 .startGame), .inr (.availableMoves 2),
    .inl (.perform 1 (.assignDeck [261, 262, 263])), .inl (.perform 1 .startRound),
    .inl (.perform 1 .startHand), .inr (.availableMoves 1), .inl (.read (.table 1)),
    .inl (.perform 1 .surrender)]

theorem reads_unobservable_quietScript :
    adaService.undisturbed quietScript = true ∧
    (adaService.answerAll quietScript).1 = (adaService.answerCalls (callsOf quietScript)).1 ∧
    (adaService.answerAll quietScript).2.store =
      (adaService.answerCalls (callsOf quietScript)).2.store := by
  have hquiet : adaService.undisturbed quietScript = true := by decide +kernel
  exact ⟨hquiet, (reads_unobservable adaService quietScript).2 hquiet⟩

/-- The moves are asked for between two rounds. -/
def peekedScript : List (Call ⊕ Read) :=
  [.inl (.perform 1 .startGame), .inl (.perform 1 (.assignDeck [261, 262, 263])),
    .inl (.perform 1 .startRound), .inl (.perform 1 .startHand), .inr (.availableMoves 1),
    .inl (.perform 1 .startRound)]

def Answer.shoe? : Answer → Option (List CardId)
  | .report (.ok granted) => granted.table.round?.map Round.shoe
  | _ => none

/-- The shoe of the second round is shuffled another way when the moves were asked for. -/
theorem reads_observed_peekedScript :
    (adaService.answerAll peekedScript).1.getLast?.bind Answer.shoe? = some [262, 261, 263] ∧
    (adaService.answerCalls (callsOf peekedScript)).1.getLast?.bind Answer.shoe? =
      some [263, 261, 262] ∧
    (adaService.answerAll peekedScript).1 ≠ (adaService.answerCalls (callsOf peekedScript)).1 := by
  have hpeeked : (adaService.answerAll peekedScript).1.getLast?.bind Answer.shoe? =
      some [262, 261, 263] := by decide +kernel
  have hcalls : (adaService.answerCalls (callsOf peekedScript)).1.getLast?.bind Answer.shoe? =
      some [263, 261, 262] := by decide +kernel
  refine ⟨hpeeked, hcalls, fun heq => ?_⟩
  rw [heq, hcalls] at hpeeked
  exact absurd hpeeked (by decide)

end BloodStakes.Service

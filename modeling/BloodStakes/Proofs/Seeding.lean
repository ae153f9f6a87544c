import Mathlib.Data.List.Nodup
import Mathlib.Data.Nat.ModEq
import Mathlib.Data.Nat.Prime.Basic
import BloodStakes.Proofs.Reads

/-!
Seeds. Every step of the mixing can be undone, so the counter can be read off a seed. A service
hands out a seed for each session it opens, in the order of the counter, and comes back to the first
of them only once the counter has gone through all 64-bit words.
-/
namespace BloodStakes

/-- A word with its own high bits laid over the low ones. -/
def xorShift (shift word : UInt64) : UInt64 := word ^^^ (word >>> shift)

private theorem xorShift_xor (shift x y : UInt64) :
    xorShift shift (x ^^^ y) = xorShift shift x ^^^ xorShift shift y := by
  simp only [xorShift, UInt64.shiftRight_xor]
  ac_rfl

private theorem eq_zero_of_xorShift {shift word : UInt64} (hshift : 0 < shift.toNat % 64)
    (h : xorShift shift word = 0) : word = 0 := by
  have hsame : word = word >>> shift := UInt64.xor_eq_zero_iff.mp h
  have hquotient : word.toNat = word.toNat / 2 ^ (shift.toNat % 64) := by
    conv_lhs => rw [hsame]
    rw [UInt64.toNat_shiftRight, Nat.shiftRight_eq_div_pow]
  by_contra hword
  have hpos : 0 < word.toNat := Nat.pos_of_ne_zero fun hzero => hword (UInt64.toNat_inj.mp hzero)
  have hless := Nat.div_lt_self hpos (Nat.one_lt_two_pow hshift.ne')
  omega

/-- The step is linear over single bits, so it is enough that only zero goes to zero. -/
theorem xorShift_injective {shift : UInt64} (hshift : 0 < shift.toNat % 64) :
    Function.Injective (xorShift shift) := by
  intro x y h
  have hzero : xorShift shift (x ^^^ y) = 0 := by
    rw [xorShift_xor, h, UInt64.xor_self]
  exact UInt64.xor_eq_zero_iff.mp (eq_zero_of_xorShift hshift hzero)

theorem mul_injective_of_odd {factor : UInt64} (hodd : Odd factor.toNat) :
    Function.Injective fun word => word * factor := by
  intro x y h
  have hcoprime : Nat.Coprime UInt64.size factor.toNat := hodd.coprime_two_left.pow_left 64
  have hmod : x.toNat * factor.toNat ≡ y.toNat * factor.toNat [MOD UInt64.size] := by
    have hnat := congrArg UInt64.toNat h
    rwa [UInt64.toNat_mul, UInt64.toNat_mul] at hnat
  apply UInt64.toNat_inj.mp
  exact (hmod.cancel_right_of_coprime hcoprime).eq_of_lt_of_lt x.toNat_lt_size y.toNat_lt_size

/-- What is done to a seed once the counter is in it. -/
def scramble (word : UInt64) : UInt64 :=
  xorShift 31 (xorShift 27 (xorShift 30 word * 0xbf58476d1ce4e5b9) * 0x94d049bb133111eb)

theorem mixSeed_eq (seed nonce : UInt64) :
    mixSeed seed nonce = scramble (seed ^^^ ((nonce + 1) * 0x9e3779b97f4a7c15)) := rfl

theorem scramble_injective : Function.Injective scramble := by
  intro x y h
  have hlast := xorShift_injective (by decide) h
  have hmiddle := xorShift_injective (by decide) (mul_injective_of_odd (by decide) hlast)
  exact xorShift_injective (by decide) (mul_injective_of_odd (by decide) hmiddle)

theorem mixSeed_right_injective (seed : UInt64) : Function.Injective (mixSeed seed) := by
  intro m n h
  rw [mixSeed_eq, mixSeed_eq] at h
  have hcounted := (UInt64.xor_right_inj seed).mp (scramble_injective h)
  exact (UInt64.add_left_inj 1).mp (mul_injective_of_odd (by decide) hcounted)

theorem mixSeed_left_injective (nonce : UInt64) :
    Function.Injective fun seed => mixSeed seed nonce := by
  intro s t h
  exact (UInt64.xor_left_inj _).mp (scramble_injective h)

namespace Service

/-- The seed of the session that is opened after `i` others. -/
def seedAt (service : Service) (i : Nat) : UInt64 :=
  mixSeed service.seed (service.nonce + UInt64.ofNat i)

/-- The seeds of the next sessions. -/
def seeds (service : Service) (count : Nat) : List UInt64 :=
  (List.range count).map service.seedAt

private theorem seedAt_succ (service : Service) (i : Nat) :
    service.seedAt (i + 1) = (service.atNonce (service.nonce + 1)).seedAt i := by
  have hnonce : service.nonce + UInt64.ofNat (i + 1) = service.nonce + 1 + UInt64.ofNat i := by
    rw [Nat.add_comm, UInt64.ofNat_add, UInt64.add_assoc]
    rfl
  exact congrArg (mixSeed service.seed) hnonce

private theorem seeds_succ (service : Service) (count : Nat) : service.seeds (count + 1) =
    service.seedAt 0 :: (service.atNonce (service.nonce + 1)).seeds count := by
  unfold seeds
  rw [List.range_succ_eq_map, List.map_cons, List.map_map]
  apply congrArg (List.cons (service.seedAt 0))
  exact List.map_congr_left fun i _ => service.seedAt_succ i

theorem seedAt_eq_iff (service : Service) (i j : Nat) :
    service.seedAt i = service.seedAt j ↔ i % UInt64.size = j % UInt64.size := by
  unfold seedAt
  rw [(mixSeed_right_injective service.seed).eq_iff, UInt64.add_right_inj, ← UInt64.toNat_inj]
  simp only [UInt64.toNat_ofNat']

theorem seeds_nodup_iff (service : Service) (count : Nat) :
    (service.seeds count).Nodup ↔ count ≤ UInt64.size := by
  unfold seeds
  rw [List.nodup_map_iff_inj_on List.nodup_range]
  constructor
  · intro h
    by_contra hmany
    -- the seed after all counters is the first one again
    have hagain : service.seedAt UInt64.size = service.seedAt 0 :=
      (service.seedAt_eq_iff _ _).mpr (by simp)
    have hsize := h _ (List.mem_range.mpr (by omega)) _ (List.mem_range.mpr (by omega)) hagain
    exact absurd hsize (by decide)
  · intro hfew i hi j hj hsame
    have hi : i < UInt64.size := (List.mem_range.mp hi).trans_le hfew
    have hj : j < UInt64.size := (List.mem_range.mp hj).trans_le hfew
    have hmod := (service.seedAt_eq_iff i j).mp hsame
    rwa [Nat.mod_eq_of_lt hi, Nat.mod_eq_of_lt hj] at hmod

/-- Sessions that are opened one after another on a service. What it stores may change in between
in any way, so that calls may also overlap. -/
inductive Opens : Service → List Session → Prop
  | done (service : Service) : Opens service []
  | stored {service : Service} {sessions : List Session} (store : Store) (nextPlayer : PlayerId)
      (h : Opens { service with store, nextPlayer } sessions) : Opens service sessions
  | opened {service after : Service} {player : PlayerId} {session : Session}
      {sessions : List Session} (hopen : service.openSession player = (.ok session, after))
      (h : Opens after sessions) : Opens service (session :: sessions)

private theorem openSession_eq_ok {service after : Service} {player : PlayerId} {session : Session}
    (h : service.openSession player = (.ok session, after)) :
    session.rng = Rng.ofSeed (service.seedAt 0) ∧ after = service.atNonce (service.nonce + 1) := by
  unfold openSession at h
  cases hload : service.store.load player with
  | error e => simp [hload] at h
  | ok table =>
    simp only [hload, Prod.mk.injEq, Except.ok.injEq] at h
    obtain ⟨rfl, rfl⟩ := h
    have hnonce : service.nonce = service.nonce + UInt64.ofNat 0 := (UInt64.add_zero _).symm
    exact ⟨congrArg (fun nonce => Rng.ofSeed (mixSeed service.seed nonce)) hnonce, rfl⟩

private theorem openSession_eq_error {service after : Service} {player : PlayerId} {e : PlayError}
    (h : service.openSession player = (.error e, after)) : after = service := by
  cases hload : service.store.load player with
  | ok table =>
    obtain ⟨rng, hopen⟩ := openSession_of_ok service hload
    rw [hopen] at h
    cases h
  | error cause =>
    rw [openSession_of_error service hload] at h
    cases h
    rfl

theorem Opens.rngs {service : Service} {sessions : List Session} (h : service.Opens sessions) :
    sessions.map Session.rng = (service.seeds sessions.length).map Rng.ofSeed := by
  induction h with
  | done => rfl
  | stored _ _ _ ih => exact ih
  | opened hopen _ ih =>
    obtain ⟨hrng, rfl⟩ := openSession_eq_ok hopen
    rw [List.map_cons, List.length_cons, seeds_succ, List.map_cons, hrng, ih]

/-- The player a call opens a session for. -/
def Call.player? : Call → Option PlayerId
  | .perform player _ | .read (.availableMoves player) => some player
  | _ => none

/-- The session a call is answered on, if one is opened for it, and the service after that. -/
def Call.opening (service : Service) (call : Call) : Option Session × Service :=
  match call.player? with
  | some player =>
    let (result, service) := service.openSession player
    (result.toOption, service)
  | none => (none, service)

/-- The sessions that calls in order are answered on. -/
def sessions (service : Service) : List Call → List Session
  | [] => []
  | call :: calls => (call.opening service).1.toList ++ (service.answer call).2.sessions calls

theorem Opens.opening {service : Service} {call : Call} {sessions : List Session}
    (h : (call.opening service).2.Opens sessions) :
    service.Opens ((call.opening service).1.toList ++ sessions) := by
  unfold Call.opening at h ⊢
  split at h
  · next player _ =>
    dsimp only at h ⊢
    cases hopen : service.openSession player with
    | mk result after =>
      rw [hopen] at h
      cases result with
      | ok session => exact .opened hopen h
      | error e =>
        rw [openSession_eq_error hopen] at h
        exact h
  · exact h

theorem addPlayer_stored (service : Service) (player : PlayerId → Player) : ∃ store nextPlayer,
    (service.addPlayer player).2 = { service with store, nextPlayer } := by
  simp only [addPlayer]
  cases service.store.insertPlayer (player service.nextPlayer) <;> exact ⟨_, _, rfl⟩

theorem perform_stored (service : Service) (player : PlayerId) (request : Request) : ∃ store,
    (service.perform player request).2 = { (service.openSession player).2 with store } := by
  have hperforms := service.perform_performs player request
  generalize service.perform player request = outcome at hperforms ⊢
  cases hperforms with
  | missing hload =>
    rw [openSession_of_error service hload]
    exact ⟨_, rfl⟩
  | refused hload | rejected hload | granted hload =>
    obtain ⟨rng, hopen⟩ := openSession_of_ok service hload
    rw [hopen]
    exact ⟨_, rfl⟩

private theorem availableMoves_opened (service : Service) (player : PlayerId) :
    (service.availableMoves player).2 = (service.openSession player).2 := by
  unfold availableMoves
  cases service.openSession player with
  | mk result after => cases result <;> rfl

private theorem answer_stored (service : Service) (call : Call) : ∃ store nextPlayer,
    (service.answer call).2 = { (call.opening service).2 with store, nextPlayer } := by
  cases call with
  | createPlayer username =>
    exact service.addPlayer_stored fun id => .ofStarter id username starterDeck service.house.rules
  | createGuest time =>
    exact service.addPlayer_stored fun id => .guest id time starterDeck service.house.rules
  | perform player request =>
    obtain ⟨store, hperform⟩ := service.perform_stored player request
    exact ⟨store, _, hperform⟩
  | read read =>
    cases read with
    | table player => exact ⟨_, _, rfl⟩
    | availableMoves player => exact ⟨_, _, service.availableMoves_opened player⟩

private theorem opens_sessions (service : Service) (calls : List Call) :
    service.Opens (service.sessions calls) := by
  induction calls generalizing service with
  | nil => exact .done service
  | cons call calls ih =>
    obtain ⟨store, nextPlayer, hanswer⟩ := service.answer_stored call
    refine Opens.opening (.stored store nextPlayer ?_)
    rw [← hanswer]
    exact ih _

/-- Mixing is one-to-one in the counter and in the seed of the service. The sessions of a service
are played with its seeds in order, however its calls overlap, and no seed comes again before the
counter has gone through all words. -/
theorem seeds_distinct :
    (∀ seed, Function.Injective (mixSeed seed)) ∧
    (∀ nonce, Function.Injective fun seed => mixSeed seed nonce) ∧
    (∀ (service : Service) (count : Nat), (service.seeds count).Nodup ↔ count ≤ UInt64.size) ∧
    (∀ (service : Service) (sessions : List Session), service.Opens sessions →
      sessions.map Session.rng = (service.seeds sessions.length).map Rng.ofSeed) ∧
    ∀ (service : Service) (calls : List Call), service.Opens (service.sessions calls) :=
  ⟨mixSeed_right_injective, mixSeed_left_injective, seeds_nodup_iff, fun _ _ h => h.rngs,
    opens_sessions⟩

/-- The counter is about to start over. -/
def wornService : Service := adaService.atNonce 0xffffffffffffffff

/-- A read and a refused request are answered on sessions of their own; a look at a table and a
request for a player who is not there are not. -/
def busyCalls : List Call :=
  [.perform 1 .startGame, .read (.availableMoves 1), .createPlayer "Bela", .perform 3 .startGame,
    .perform 2 .draw, .read (.table 2), .perform 2 .startGame]

theorem seeds_distinct_busyCalls :
    wornService.Opens (wornService.sessions busyCalls) ∧
    (wornService.sessions busyCalls).map Session.rng = (wornService.seeds 4).map Rng.ofSeed ∧
    (wornService.seeds 4).Nodup := by
  obtain ⟨-, -, hnodup, hrngs, hopens⟩ := seeds_distinct
  have hbusy := hopens wornService busyCalls
  have hcount : (wornService.sessions busyCalls).length = 4 := by decide +kernel
  have htaken := hrngs wornService _ hbusy
  rw [hcount] at htaken
  exact ⟨hbusy, htaken, (hnodup wornService 4).mpr (by decide)⟩

end Service

end BloodStakes

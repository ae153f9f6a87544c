import Mathlib.Data.List.Duplicate
import BloodStakes.Proofs.Firing

/-!
Faults of a catalog. What can be wrong with a catalog is said twice: as a condition on the catalog
for each fault, and as the list of all faults in the order of the entries. The validation accepts
the catalogs that have none, and of any other it reports the first of the list.
-/
namespace BloodStakes

theorem EffectKind.ofId?_eq_some_iff {id : String} {kind : EffectKind} :
    EffectKind.ofId? id = some kind ↔ kind.id = id := by
  constructor
  · intro h
    simpa using List.find?_some h
  · rintro rfl
    cases kind <;> rfl

/-- The effect is of a known kind, which has every action that the effect has an entry for. -/
def Effect.IsValid (effect : Effect) : Prop :=
  ∃ kind : EffectKind, kind.id = effect.kindId ∧
    ∀ action entry, effect.bundle.lookup action = some entry → action ∈ kind.actions

namespace Catalog

/-- The effects of a catalog, each with its owner. -/
inductive Bears (catalog : Catalog) : EffectOwner → Effect → Prop
  | daimon {daimon : Daimon} (h : daimon ∈ catalog.daimons) :
      Bears catalog (.daimon daimon.id) daimon.effect
  | token {token : Token} (h : token ∈ catalog.tokens) (slotType : SlotType) :
      Bears catalog (.token token.id slotType) (token.effectFor slotType)

/-- What it means for a catalog to have a fault. -/
inductive HasFault (catalog : Catalog) : CatalogFault → Prop
  | daimonId {id : DaimonId} (h : (catalog.daimons.map Daimon.id).Duplicate id) :
      HasFault catalog (.daimonId id)
  | daimonName {name : String} (h : (catalog.daimons.map Daimon.name).Duplicate name) :
      HasFault catalog (.daimonName name)
  | daimonRune {rune : String} (h : (catalog.daimons.map Daimon.rune).Duplicate rune) :
      HasFault catalog (.daimonRune rune)
  | daimonSequence {sequence : Nat}
      (h : (catalog.daimons.map Daimon.storySequence).Duplicate sequence) :
      HasFault catalog (.daimonSequence sequence)
  | noOpeningDaimon (h : 0 ∉ catalog.daimons.map Daimon.storySequence) :
      HasFault catalog .noOpeningDaimon
  | tokenId {id : TokenId} (h : (catalog.tokens.map Token.id).Duplicate id) :
      HasFault catalog (.tokenId id)
  | tokenName {name : String} (h : (catalog.tokens.map Token.name).Duplicate name) :
      HasFault catalog (.tokenName name)
  | tokenRune {rune : String} (h : (catalog.tokens.map Token.rune).Duplicate rune) :
      HasFault catalog (.tokenRune rune)
  | tokenSequence {sequence : Nat}
      (h : (catalog.tokens.filterMap Token.storySequence?).Duplicate sequence) :
      HasFault catalog (.tokenSequence sequence)
  | unknownKind {owner : EffectOwner} {effect : Effect} (heffect : catalog.Bears owner effect)
      (hkind : ∀ kind : EffectKind, kind.id ≠ effect.kindId) :
      HasFault catalog (.unknownKind owner effect.kindId)
  | strayAction {owner : EffectOwner} {effect : Effect} {kind : EffectKind} {action : Action}
      {entry : Entry} (heffect : catalog.Bears owner effect) (hkind : kind.id = effect.kindId)
      (hentry : effect.bundle.lookup action = some entry) (hstray : action ∉ kind.actions) :
      HasFault catalog (.strayAction owner action kind)

/-- Ids, names, runes and places in the story are distinct, the story opens with a daimon, and
every effect is valid. -/
structure WellFormed (catalog : Catalog) : Prop where
  daimonIds : (catalog.daimons.map Daimon.id).Nodup
  daimonNames : (catalog.daimons.map Daimon.name).Nodup
  daimonRunes : (catalog.daimons.map Daimon.rune).Nodup
  daimonSequences : (catalog.daimons.map Daimon.storySequence).Nodup
  opening : ∃ daimon ∈ catalog.daimons, daimon.storySequence = 0
  daimonEffects : ∀ daimon ∈ catalog.daimons, daimon.effect.IsValid
  tokenIds : (catalog.tokens.map Token.id).Nodup
  tokenNames : (catalog.tokens.map Token.name).Nodup
  tokenRunes : (catalog.tokens.map Token.rune).Nodup
  tokenSequences : (catalog.tokens.filterMap Token.storySequence?).Nodup
  tokenEffects : ∀ token ∈ catalog.tokens, ∀ slotType, (token.effectFor slotType).IsValid

variable {catalog : Catalog} {fault : CatalogFault}

theorem WellFormed.effect_isValid (h : catalog.WellFormed) {owner : EffectOwner} {effect : Effect}
    (heffect : catalog.Bears owner effect) : effect.IsValid := by
  cases heffect with
  | daimon hdaimon => exact h.daimonEffects _ hdaimon
  | token htoken slotType => exact h.tokenEffects _ htoken slotType

theorem isValid_of_no_fault {owner : EffectOwner} {effect : Effect}
    (h : ∀ fault, ¬ catalog.HasFault fault) (heffect : catalog.Bears owner effect) :
    effect.IsValid := by
  by_contra hinvalid
  by_cases hknown : ∃ kind : EffectKind, kind.id = effect.kindId
  · obtain ⟨kind, hkind⟩ := hknown
    refine hinvalid ⟨kind, hkind, fun action entry hentry => ?_⟩
    by_contra hstray
    exact h _ (.strayAction heffect hkind hentry hstray)
  · exact h _ (.unknownKind heffect fun kind hkind => hknown ⟨kind, hkind⟩)

theorem wellFormed_iff : catalog.WellFormed ↔ ∀ fault, ¬ catalog.HasFault fault := by
  constructor
  · intro h fault hfault
    cases hfault with
    | daimonId hrepeated => exact hrepeated.not_nodup h.daimonIds
    | daimonName hrepeated => exact hrepeated.not_nodup h.daimonNames
    | daimonRune hrepeated => exact hrepeated.not_nodup h.daimonRunes
    | daimonSequence hrepeated => exact hrepeated.not_nodup h.daimonSequences
    | noOpeningDaimon hnone => exact hnone (List.mem_map.mpr h.opening)
    | tokenId hrepeated => exact hrepeated.not_nodup h.tokenIds
    | tokenName hrepeated => exact hrepeated.not_nodup h.tokenNames
    | tokenRune hrepeated => exact hrepeated.not_nodup h.tokenRunes
    | tokenSequence hrepeated => exact hrepeated.not_nodup h.tokenSequences
    | unknownKind heffect hkind =>
      obtain ⟨kind, hid, -⟩ := h.effect_isValid heffect
      exact hkind kind hid
    | @strayAction owner effect kind action entry heffect hkind hentry hstray =>
      obtain ⟨kind', hkind', hactions⟩ := h.effect_isValid heffect
      have hsame : some kind = some kind' :=
        (EffectKind.ofId?_eq_some_iff.mpr hkind).symm.trans
          (EffectKind.ofId?_eq_some_iff.mpr hkind')
      cases hsame
      exact hstray (hactions action entry hentry)
  · intro h
    have hnodup {α : Type} {l : List α} (hrepeated : ∀ x, ¬ l.Duplicate x) : l.Nodup :=
      List.nodup_iff_forall_not_duplicate.mpr hrepeated
    refine
      { daimonIds := hnodup fun _ hrepeated => h _ (.daimonId hrepeated)
        daimonNames := hnodup fun _ hrepeated => h _ (.daimonName hrepeated)
        daimonRunes := hnodup fun _ hrepeated => h _ (.daimonRune hrepeated)
        daimonSequences := hnodup fun _ hrepeated => h _ (.daimonSequence hrepeated)
        opening := ?_
        daimonEffects := fun _ hdaimon => isValid_of_no_fault h (.daimon hdaimon)
        tokenIds := hnodup fun _ hrepeated => h _ (.tokenId hrepeated)
        tokenNames := hnodup fun _ hrepeated => h _ (.tokenName hrepeated)
        tokenRunes := hnodup fun _ hrepeated => h _ (.tokenRune hrepeated)
        tokenSequences := hnodup fun _ hrepeated => h _ (.tokenSequence hrepeated)
        tokenEffects := fun _ htoken slotType => isValid_of_no_fault h (.token htoken slotType) }
    by_contra hnone
    exact h _ (.noOpeningDaimon fun hmem => hnone (List.mem_map.mp hmem))

/-- The fault of an entry whose key one of the entries `before` has too. -/
def repeated {α β : Type} [DecidableEq β] (key? : α → Option β) (toFault : β → CatalogFault)
    (before : List α) (entry : α) : List CatalogFault :=
  ((key? entry).toList.filter (· ∈ before.filterMap key?)).map toFault

def effectFaults (owner : EffectOwner) (effect : Effect) : List CatalogFault :=
  match EffectKind.ofId? effect.kindId with
  | none => [.unknownKind owner effect.kindId]
  | some kind =>
    (effect.bundle.toList.filter fun (action, _) => action ∉ kind.actions).map
      fun (action, _) => .strayAction owner action kind

/-- The faults of all entries, each judged by those before it. -/
def faultsFrom {α : Type} (faultsOf : List α → α → List CatalogFault) (before : List α) :
    List α → List CatalogFault
  | [] => []
  | entry :: entries => faultsOf before entry ++ faultsFrom faultsOf (before ++ [entry]) entries

def daimonFaults (before : List Daimon) (daimon : Daimon) : List CatalogFault :=
  repeated (fun daimon => some daimon.id) .daimonId before daimon ++
    (repeated (fun daimon => some daimon.name) .daimonName before daimon ++
      (repeated (fun daimon => some daimon.rune) .daimonRune before daimon ++
        (repeated (fun daimon => some daimon.storySequence) .daimonSequence before daimon ++
          effectFaults (.daimon daimon.id) daimon.effect)))

def tokenEffectFaults (token : Token) : List CatalogFault :=
  SlotType.all.flatMap fun slotType =>
    effectFaults (.token token.id slotType) (token.effectFor slotType)

def tokenFaults (before : List Token) (token : Token) : List CatalogFault :=
  repeated (fun token => some token.id) .tokenId before token ++
    (repeated (fun token => some token.name) .tokenName before token ++
      (repeated (fun token => some token.rune) .tokenRune before token ++
        (repeated Token.storySequence? .tokenSequence before token ++ tokenEffectFaults token)))

/-- All that is wrong with the daimons, with the opening of the story, and with the tokens, entry
by entry. -/
def faults (catalog : Catalog) : List CatalogFault :=
  faultsFrom daimonFaults [] catalog.daimons ++
    ((if 0 ∈ catalog.daimons.map Daimon.storySequence then [] else [.noOpeningDaimon]) ++
      faultsFrom tokenFaults [] catalog.tokens)

section
variable {α β : Type} [DecidableEq β] {key? : α → Option β} {toFault : β → CatalogFault}
  {before entries : List α}

theorem mem_faultsFrom_append_iff {f g : List α → α → List CatalogFault} :
    fault ∈ faultsFrom (fun before entry => f before entry ++ g before entry) before entries ↔
      fault ∈ faultsFrom f before entries ∨ fault ∈ faultsFrom g before entries := by
  induction entries generalizing before with
  | nil => simp [faultsFrom]
  | cons entry entries ih =>
    simp only [faultsFrom, List.mem_append, ih]
    tauto

theorem mem_faultsFrom_each_iff {f : α → List CatalogFault} :
    fault ∈ faultsFrom (fun _ entry => f entry) before entries ↔
      ∃ entry ∈ entries, fault ∈ f entry := by
  induction entries generalizing before with
  | nil => simp [faultsFrom]
  | cons entry entries ih => simp [faultsFrom, ih]

private theorem mem_repeated_iff {entry : α} : fault ∈ repeated key? toFault before entry ↔
    ∃ key, toFault key = fault ∧ key? entry = some key ∧ key ∈ before.filterMap key? := by
  cases h : key? entry <;> simp [repeated, h, and_comm]

theorem mem_faultsFrom_repeated_iff :
    fault ∈ faultsFrom (repeated key? toFault) before entries ↔ ∃ key, toFault key = fault ∧
      ((entries.filterMap key?).Duplicate key ∨
        key ∈ entries.filterMap key? ∧ key ∈ before.filterMap key?) := by
  -- the entries that have been passed are those before the rest, so `before` grows by the head
  induction entries generalizing before with
  | nil => simp [faultsFrom]
  | cons entry entries ih =>
    simp only [faultsFrom, List.mem_append, ih, mem_repeated_iff, ← exists_or, ← and_or_left]
    refine exists_congr fun key => and_congr_right fun _ => ?_
    cases hkey : key? entry with
    | none => simp [hkey]
    | some found =>
      simp only [hkey, List.filterMap_cons, List.filterMap_append, List.filterMap_nil,
        List.duplicate_cons_iff, List.mem_append, List.mem_cons, List.not_mem_nil,
        Option.some.injEq, or_false, eq_comm (a := found)]
      tauto

end

theorem mem_effectFaults_iff {owner : EffectOwner} {effect : Effect} :
    fault ∈ effectFaults owner effect ↔
      (.unknownKind owner effect.kindId = fault ∧ ∀ kind : EffectKind, kind.id ≠ effect.kindId) ∨
      ∃ kind action entry, .strayAction owner action kind = fault ∧ kind.id = effect.kindId ∧
        effect.bundle.lookup action = some entry ∧ action ∉ kind.actions := by
  simp only [← EffectKind.ofId?_eq_some_iff, ne_eq]
  unfold effectFaults
  cases hkind : EffectKind.ofId? effect.kindId with
  | none => simp [eq_comm]
  | some kind =>
    simp only [List.mem_map, List.mem_filter, Prod.exists, Bundle.mem_toList_iff,
      Option.some.injEq, forall_eq', and_false, false_or]
    constructor
    · rintro ⟨action, entry, ⟨hentry, hstray⟩, rfl⟩
      exact ⟨kind, action, entry, rfl, rfl, hentry, by simpa using hstray⟩
    · rintro ⟨_, action, entry, rfl, rfl, hentry, hstray⟩
      exact ⟨action, entry, ⟨hentry, by simpa using hstray⟩, rfl⟩

theorem hasFault_of_mem_effectFaults {owner : EffectOwner} {effect : Effect}
    (heffect : catalog.Bears owner effect) (h : fault ∈ effectFaults owner effect) :
    catalog.HasFault fault := by
  obtain ⟨rfl, hkind⟩ | ⟨kind, action, entry, rfl, hkind, hentry, hstray⟩ :=
    mem_effectFaults_iff.mp h
  · exact .unknownKind heffect hkind
  · exact .strayAction heffect hkind hentry hstray

theorem mem_daimonFaults_iff {daimons : List Daimon} :
    fault ∈ faultsFrom daimonFaults [] daimons ↔
      (∃ id, .daimonId id = fault ∧ (daimons.map Daimon.id).Duplicate id) ∨
      (∃ name, .daimonName name = fault ∧ (daimons.map Daimon.name).Duplicate name) ∨
      (∃ rune, .daimonRune rune = fault ∧ (daimons.map Daimon.rune).Duplicate rune) ∨
      (∃ sequence, .daimonSequence sequence = fault ∧
        (daimons.map Daimon.storySequence).Duplicate sequence) ∨
      ∃ daimon ∈ daimons, fault ∈ effectFaults (.daimon daimon.id) daimon.effect := by
  unfold daimonFaults
  simp only [mem_faultsFrom_append_iff, mem_faultsFrom_repeated_iff, mem_faultsFrom_each_iff,
    List.filterMap_eq_map', List.filterMap_nil, List.not_mem_nil, and_false, or_false]

theorem mem_tokenFaults_iff {tokens : List Token} :
    fault ∈ faultsFrom tokenFaults [] tokens ↔
      (∃ id, .tokenId id = fault ∧ (tokens.map Token.id).Duplicate id) ∨
      (∃ name, .tokenName name = fault ∧ (tokens.map Token.name).Duplicate name) ∨
      (∃ rune, .tokenRune rune = fault ∧ (tokens.map Token.rune).Duplicate rune) ∨
      (∃ sequence, .tokenSequence sequence = fault ∧
        (tokens.filterMap Token.storySequence?).Duplicate sequence) ∨
      ∃ token ∈ tokens, ∃ slotType,
        fault ∈ effectFaults (.token token.id slotType) (token.effectFor slotType) := by
  have hall (slotType : SlotType) : slotType ∈ SlotType.all := by cases slotType <;> decide
  unfold tokenFaults tokenEffectFaults
  simp only [mem_faultsFrom_append_iff, mem_faultsFrom_repeated_iff, mem_faultsFrom_each_iff,
    List.filterMap_eq_map', List.filterMap_nil, List.not_mem_nil, and_false, or_false,
    List.mem_flatMap, hall, true_and]

theorem mem_faults : fault ∈ catalog.faults ↔
    fault ∈ faultsFrom daimonFaults [] catalog.daimons ∨
      (fault = .noOpeningDaimon ∧ 0 ∉ catalog.daimons.map Daimon.storySequence) ∨
      fault ∈ faultsFrom tokenFaults [] catalog.tokens := by
  unfold faults
  rw [List.mem_append, List.mem_append]
  split <;> simp_all

theorem mem_faults_of_bears {owner : EffectOwner} {effect : Effect}
    (heffect : catalog.Bears owner effect) (h : fault ∈ effectFaults owner effect) :
    fault ∈ catalog.faults := by
  rw [mem_faults, mem_daimonFaults_iff, mem_tokenFaults_iff]
  cases heffect with
  | daimon hdaimon => exact .inl (.inr (.inr (.inr (.inr ⟨_, hdaimon, h⟩))))
  | token htoken slotType =>
    exact .inr (.inr (.inr (.inr (.inr (.inr ⟨_, htoken, slotType, h⟩)))))

theorem mem_faults_iff : fault ∈ catalog.faults ↔ catalog.HasFault fault := by
  constructor
  · rw [mem_faults, mem_daimonFaults_iff, mem_tokenFaults_iff]
    rintro ((⟨_, rfl, h⟩ | ⟨_, rfl, h⟩ | ⟨_, rfl, h⟩ | ⟨_, rfl, h⟩ | ⟨daimon, hdaimon, h⟩) |
      ⟨rfl, h⟩ |
      ⟨_, rfl, h⟩ | ⟨_, rfl, h⟩ | ⟨_, rfl, h⟩ | ⟨_, rfl, h⟩ | ⟨token, htoken, slotType, h⟩)
    · exact .daimonId h
    · exact .daimonName h
    · exact .daimonRune h
    · exact .daimonSequence h
    · exact hasFault_of_mem_effectFaults (.daimon hdaimon) h
    · exact .noOpeningDaimon h
    · exact .tokenId h
    · exact .tokenName h
    · exact .tokenRune h
    · exact .tokenSequence h
    · exact hasFault_of_mem_effectFaults (.token htoken slotType) h
  · intro h
    cases h with
    | unknownKind heffect hkind =>
      exact mem_faults_of_bears heffect (mem_effectFaults_iff.mpr (.inl ⟨rfl, hkind⟩))
    | strayAction heffect hkind hentry hstray =>
      exact mem_faults_of_bears heffect
        (mem_effectFaults_iff.mpr (.inr ⟨_, _, _, rfl, hkind, hentry, hstray⟩))
    | _ h =>
      rw [mem_faults, mem_daimonFaults_iff, mem_tokenFaults_iff]
      simp [h]

theorem effectFault?_eq (owner : EffectOwner) (effect : Effect) :
    effectFault? owner effect = (effectFaults owner effect).head? := by
  unfold effectFault? effectFaults
  cases EffectKind.ofId? effect.kindId with
  | none => rfl
  | some kind => simp [List.head?_filter]

private theorem tokenEffectFault?_eq (token : Token) :
    tokenEffectFault? token = (tokenEffectFaults token).head? := by
  unfold tokenEffectFault? tokenEffectFaults
  simp [List.head?_flatMap, effectFault?_eq]

section
variable {α β : Type} [DecidableEq β] (toFault : β → CatalogFault) (before : List α) {entry : α}
  (rest : List CatalogFault)

theorem head?_repeated {key? : α → Option β} {key : β} (hkey : key? entry = some key) :
    (repeated key? toFault before entry ++ rest).head? =
      if before.any (fun earlier => key? earlier = some key) then some (toFault key)
      else rest.head? := by
  by_cases hfound : ∃ earlier ∈ before, key? earlier = some key
  · simp [repeated, hkey, hfound]
  · simp [repeated, hkey, hfound]

theorem head?_repeated_some (key : α → β) :
    (repeated (fun entry => some (key entry)) toFault before entry ++ rest).head? =
      if before.any (fun earlier => key earlier = key entry) then some (toFault (key entry))
      else rest.head? := by
  have hkey : (fun entry => some (key entry)) entry = some (key entry) := rfl
  rw [head?_repeated toFault before rest hkey]
  simp only [Option.some.injEq]

end

private theorem daimonFault?_eq (before : List Daimon) (daimon : Daimon) :
    daimonFault? before daimon = (daimonFaults before daimon).head? := by
  unfold daimonFault? daimonFaults
  simp only [head?_repeated_some, effectFault?_eq]

private theorem tokenFault?_eq (before : List Token) (token : Token) :
    tokenFault? before token = (tokenFaults before token).head? := by
  unfold tokenFault? tokenFaults
  simp only [head?_repeated_some, tokenEffectFault?_eq]
  cases hsequence : token.storySequence? with
  | none => simp only [repeated, hsequence, Option.toList_none, List.filter_nil, List.map_nil,
      List.nil_append]
  | some sequence => simp only [head?_repeated _ _ _ hsequence]

theorem firstFault?_eq {α : Type} {fault? : List α → α → Option CatalogFault}
    {faultsOf : List α → α → List CatalogFault}
    (h : ∀ before entry, fault? before entry = (faultsOf before entry).head?)
    (before entries : List α) :
    firstFault? fault? before entries = (faultsFrom faultsOf before entries).head? := by
  induction entries generalizing before with
  | nil => rfl
  | cons entry entries ih =>
    rw [firstFault?, faultsFrom, h, ih, List.head?_append]
    cases (faultsOf before entry).head? <;> rfl

theorem fault?_eq (catalog : Catalog) : catalog.fault? = catalog.faults.head? := by
  unfold fault? faults
  rw [firstFault?_eq daimonFault?_eq, firstFault?_eq tokenFault?_eq, List.head?_append,
    List.head?_append]
  cases (faultsFrom daimonFaults [] catalog.daimons).head? with
  | some fault => rfl
  | none =>
    by_cases hopening : 0 ∈ catalog.daimons.map Daimon.storySequence
    · have hany : catalog.daimons.any (·.storySequence = 0) = true := by
        simpa using hopening
      simp [hopening, hany]
    · have hnone : catalog.daimons.any (·.storySequence = 0) = false := by
        simpa using hopening
      simp [hopening, hnone]

/-- The validation accepts exactly the well-formed catalogs. It refuses any other for the first of
its faults, entry by entry: the list has every fault of the catalog, and nothing else. -/
theorem validate_exact (catalog : Catalog) :
    (catalog.validate = .ok () ↔ catalog.WellFormed) ∧
    (∀ fault, catalog.validate = .error fault ↔ catalog.faults.head? = some fault) ∧
    ∀ fault, fault ∈ catalog.faults ↔ catalog.HasFault fault := by
  have hnone : catalog.faults.head? = none ↔ catalog.WellFormed := by
    rw [List.head?_eq_none_iff, List.eq_nil_iff_forall_not_mem, wellFormed_iff]
    exact forall_congr' fun _ => not_congr mem_faults_iff
  refine ⟨?_, fun fault => ?_, fun _ => mem_faults_iff⟩
  · rw [← hnone, ← fault?_eq, validate]
    cases catalog.fault? <;> simp
  · rw [← fault?_eq, validate]
    cases catalog.fault? <;> simp

end Catalog

end BloodStakes

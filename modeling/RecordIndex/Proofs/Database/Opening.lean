import RecordIndex.Database
import RecordIndex.Proofs.Json.Strings
import RecordIndex.Proofs.Table.Lookup

namespace RecordIndex

/-!
# Opening a store

A store is opened only under the settings that it was indexed under, and
settings that are the same text derive the same terms.  The order of the stop
words, which the text does not keep, does not matter to tokens.
-/

namespace Tokenizer

/-- Only which words are stop words matters. -/
theorem terms_congr {first second : Tokenizer}
    (same : forall word, word ∈ first.stopWords ↔ word ∈ second.stopWords) (text : String) :
    first.terms text = second.terms text := by
  have contained : (fun word => !first.stopWords.contains word) =
      fun word => !second.stopWords.contains word := by
    funext word
    simp only [List.contains_eq_mem, same]
  unfold terms tokens
  rw [contained]

end Tokenizer

namespace Config

/-- Configurations with the same settings split texts alike. -/
theorem textParts_eq {first second : Config} (same : first.indexSettings = second.indexSettings)
    (declared : Option (List (List String))) (text : String) :
    Deriver.textParts ⟨declared, first.tokenizer?⟩ text =
      Deriver.textParts ⟨declared, second.tokenizer?⟩ text := by
  unfold indexSettings at same
  simp only [List.cons.injEq, Prod.mk.injEq, true_and, and_true] at same
  rcases same with ⟨fullText, stopWords⟩
  have permuted : first.stopWords.Perm second.stopWords := by
    have sorted := Json.eq_of_text_eq stopWords
    have own := List.mergeSort_perm first.stopWords fun first second =>
      (compare first second).isLE
    rw [sorted] at own
    exact own.symm.trans (List.mergeSort_perm second.stopWords _)
  have fullText : first.fullText = second.fullText := by
    revert fullText
    cases first.fullText <;> cases second.fullText <;> decide
  unfold tokenizer?
  rw [fullText]
  split
  · unfold Deriver.textParts
    dsimp only
    rw [Tokenizer.terms_congr]
    intro word
    exact (permuted.map Lowercase.lower).mem_iff
  · rfl

end Config

namespace Database

/-! ## Settings -/

/-- A setting that is accepted is stored, and nothing else changes. -/
theorem settle_eq_ok {store store' : Store} {setting : String × String}
    (accepted : settle store setting = .ok store') :
    store' = { store with settings := store'.settings } ∧
      store'.settings.get? setting.1 = some setting.2 ∧
      forall name text, store.settings.get? name = some text ->
        store'.settings.get? name = some text := by
  unfold settle at accepted
  split at accepted
  · rename_i stored isStored
    split at accepted
    · rename_i same
      cases accepted
      refine ⟨rfl, ?_, fun _ _ found => found⟩
      rw [isStored, same]
    · cases accepted
  · rename_i notStored
    cases accepted
    refine ⟨rfl, Table.get?_insert_self _ _ _, ?_⟩
    intro name text found
    have different : name ≠ setting.1 := by
      intro same
      rw [same, notStored] at found
      cases found
    rw [← found]
    exact Table.get?_insert_of_ne different _ _

theorem settleAll_eq_ok {settings : List (String × String)} {store store' : Store}
    (accepted : settings.foldlM settle store = .ok store') :
    store' = { store with settings := store'.settings } ∧
      (∀ setting ∈ settings, store'.settings.get? setting.1 = some setting.2) ∧
      forall name text, store.settings.get? name = some text ->
        store'.settings.get? name = some text := by
  induction settings generalizing store with
  | nil =>
      cases accepted
      exact ⟨rfl, nofun, fun _ _ found => found⟩
  | cons setting rest ih =>
      rw [List.foldlM_cons] at accepted
      cases isFirst : settle store setting with
      | error cause =>
          rw [isFirst] at accepted
          cases accepted
      | ok middle =>
          rw [isFirst] at accepted
          rcases settle_eq_ok isFirst with ⟨others, stored, kept⟩
          rcases ih accepted with ⟨others', stored', kept'⟩
          refine ⟨?_, ?_, fun name text found => kept' name text (kept name text found)⟩
          · rw [others', others]
          · intro entry member
            rcases List.mem_cons.mp member with here | later
            · subst here
              exact kept' _ _ stored
            · exact stored' entry later

/-- Settings that are stored side by side are the same. -/
theorem indexSettings_eq_of_settled {config config' : Config} {settings : Table String String}
    (settled : ∀ setting ∈ config.indexSettings, settings.get? setting.1 = some setting.2)
    (settled' : ∀ setting ∈ config'.indexSettings, settings.get? setting.1 = some setting.2) :
    config.indexSettings = config'.indexSettings := by
  unfold Config.indexSettings at settled settled' ⊢
  simp only [List.forall_mem_cons] at settled settled'
  rcases settled with ⟨fullText, stopWords, _⟩
  rcases settled' with ⟨fullText', stopWords', _⟩
  rw [fullText] at fullText'
  rw [stopWords] at stopWords'
  dsimp only
  rw [Option.some.inj fullText', Option.some.inj stopWords']

/-- What an accepted opening leads to. -/
structure Opened (config : Config) (store : Store) (supply : IdSupply) (database : Database) :
    Prop where
  isConfig : database.config = config
  isStore : database.store = { store with settings := database.store.settings }
  isRegistry : database.registry = Registry.defineAll .empty store.schemas.values
  isSupply : database.supply = supply
  readsRows : 0 < config.scanBatch
  settled : ∀ setting ∈ config.indexSettings,
    database.store.settings.get? setting.1 = some setting.2
  kept : forall name text, store.settings.get? name = some text ->
    database.store.settings.get? name = some text

theorem opened_of_openStore {config : Config} {store : Store} {supply : IdSupply}
    {database : Database} (accepted : openStore config store supply = .ok database) :
    Opened config store supply database := by
  unfold openStore at accepted
  have readsRows : 0 < config.scanBatch := by
    rcases Nat.eq_zero_or_pos config.scanBatch with none | some
    · have refused : config.validate = .error .emptyScanBatch := if_pos none
      rw [refused] at accepted
      cases accepted
    · exact some
  have valid : config.validate = .ok () := if_neg (Nat.ne_of_gt readsRows)
  rw [valid] at accepted
  cases isSettled : config.indexSettings.foldlM settle store with
  | error cause =>
      simp only [bind, Except.bind, isSettled] at accepted
      cases accepted
  | ok settledStore =>
      simp only [bind, Except.bind, isSettled] at accepted
      cases accepted
      rcases settleAll_eq_ok isSettled with ⟨others, stored, kept⟩
      refine ⟨rfl, others, ?_, rfl, readsRows, stored, kept⟩
      rw [others]

end Database

end RecordIndex

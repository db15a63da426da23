import Mathlib.Data.List.SplitBy
import Mathlib.Data.List.DropRight
import Issuance.Logging.Redact
import Issuance.Proofs.Text.Trim
/-! # Masking key=value database addresses

The masker reads a key=value address word by word, so a setting written as
one word `key=value` has its value hidden when the key is `password` in any
case, and every other word is kept. A setting whose `=` stands between
blanks is three words, none of them `password=...`, and is kept whole. -/
namespace Issuance.Logging

open Text

/-- Settings written `key=value`, one blank apart. -/
def settingsText (settings : List (String × String)) : String :=
  " ".intercalate (settings.map fun s => s.1 ++ "=" ++ s.2)

/-- A word: some characters and no blank among them. -/
def Word (w : List Char) : Prop := w ≠ [] ∧ ∀ c ∈ w, isBlank c = false

theorem word_ends {w : List Char} (hw : Word w) :
    isBlank (w.head hw.1) = false ∧ isBlank (w.getLast hw.1) = false :=
  ⟨hw.2 _ (List.head_mem hw.1), hw.2 _ (List.getLast_mem hw.1)⟩

theorem intercalate_ends {ws : List (List Char)} (h : ∀ w ∈ ws, Word w) (hne : [' '].intercalate ws ≠ []) :
    isBlank (([' '].intercalate ws).head hne) = false ∧ isBlank (([' '].intercalate ws).getLast hne) = false := by
  induction ws with
  | nil => simp at hne
  | cons w ws ih =>
    have hw := h w (by simp)
    cases ws with
    | nil => simpa using word_ends hw
    | cons w' ws =>
      have hne' : [' '].intercalate (w' :: ws) ≠ [] := by
        obtain ⟨a, t, rfl⟩ := List.exists_cons_of_ne_nil (h w' (by simp)).1
        simp
      have ht := ih (fun v hv => h v (by simp [hv])) hne'
      simp only [List.intercalate_cons_cons, List.append_assoc]
      rw [List.head_append_of_ne_nil hw.1, List.getLast_append_of_ne_nil _ (by simp),
        List.getLast_append_of_ne_nil _ hne']
      exact ⟨(word_ends hw).1, ht.2⟩

theorem trimChars_of_ends {cs : List Char} (h : ∀ hne : cs ≠ [], isBlank (cs.head hne) = false ∧ isBlank (cs.getLast hne) = false) :
    trimChars cs = cs := by
  have hd : cs.dropWhile isBlank = cs := by
    cases cs with
    | nil => rfl
    | cons c cs => exact List.dropWhile_cons_of_neg (by simpa using (h (List.cons_ne_nil c cs)).1)
  rw [trimChars_eq, hd, List.rdropWhile_eq_self_iff]
  intro hne
  simp [(h hne).2]

theorem fields_intercalate {ws : List (List Char)} (h : ∀ w ∈ ws, Word w) :
    fields (String.ofList ([' '].intercalate ws)) = ws.map String.ofList := by
  simp only [fields, String.toList_ofList]
  induction ws with
  | nil => rfl
  | cons w ws ih =>
    have hw := h w (by simp)
    have hall : w.all isBlank = false := by
      obtain ⟨a, t, rfl⟩ := List.exists_cons_of_ne_nil hw.1
      simp [hw.2 a (by simp)]
    have hone : w.splitBy (fun a b => isBlank a = isBlank b) = [w] :=
      List.splitBy_of_isChain hw.1 (List.pairwise_of_forall_mem_list fun a ha b hb => by
        simp [hw.2 a ha, hw.2 b hb]).isChain
    cases ws with
    | nil => simp only [List.intercalate_singleton, hone, List.filterMap_cons, hall, Bool.false_eq_true, if_false,
        List.filterMap_nil, List.map_cons, List.map_nil]
    | cons w' ws =>
      obtain ⟨a, t, hw'⟩ := List.exists_cons_of_ne_nil (h w' (by simp)).1
      have ha : isBlank a = false := (h w' (by simp)).2 a (by simp [hw'])
      have hlast : isBlank (w.getLast hw.1) = false := (word_ends hw).2
      have hblank : isBlank ' ' = true := by decide
      rw [List.intercalate_cons_cons, List.splitBy_append, List.splitBy_append, hone, List.filterMap_append,
        List.filterMap_append, ih (fun v hv => h v (by simp [hv]))]
      · have hsp : [' '].splitBy (fun a b => isBlank a = isBlank b) = [[' ']] := rfl
        simp only [hsp, List.filterMap_cons, hall, Bool.false_eq_true, if_false, List.filterMap_nil, List.map_cons]
        rfl
      · simp [List.getLast?_eq_some_getLast hw.1, hlast, hblank]
      · simp [hw', ha, hblank]

theorem maskWord_setting {k v : String} (hk : '=' ∉ k.toList) :
    maskWord (k ++ "=" ++ v) = k ++ "=" ++ if equalFold k "password" then redacted else v := by
  have hkey : ((k ++ "=" ++ v).toList.takeWhile (· ≠ '=')) = k.toList := by
    have h1 : ∀ c ∈ k.toList, decide (c ≠ '=') = true := fun c hc => by
      simp only [ne_eq, decide_eq_true_eq]
      rintro rfl
      exact hk hc
    simp only [String.toList_append, List.append_assoc, List.takeWhile_append_of_pos h1]
    simp
  have hsep : (k ++ "=" ++ v).toList.contains '=' = true := by simp
  rw [maskWord]
  simp only [hkey, hsep, String.ofList_toList, Bool.true_and]
  split <;> rfl

theorem maskDsn_settingsText (settings : List (String × String))
    (hk : ∀ s ∈ settings, ∀ c ∈ s.1.toList, c ≠ '=' ∧ isBlank c = false)
    (hv : ∀ s ∈ settings, ∀ c ∈ s.2.toList, isBlank c = false)
    (hurl : (settingsText settings).contains "://" = false) :
    maskDsn (settingsText settings) =
      settingsText (settings.map fun s => (s.1, if equalFold s.1 "password" then redacted else s.2)) := by
  -- each setting is one word: the key's characters, `=`, and the value's
  have hwords : ∀ w ∈ settings.map (fun s => (s.1 ++ "=" ++ s.2).toList), Word w := by
    intro w hw
    obtain ⟨s, hs, rfl⟩ := List.mem_map.mp hw
    refine ⟨by simp, fun c hc => ?_⟩
    simp only [String.toList_append, List.mem_append] at hc
    rcases hc with (hc | hc) | hc
    · exact (hk s hs c hc).2
    · simp at hc
      subst hc
      decide
    · exact hv s hs c hc
  have hchars : (settingsText settings).toList = [' '].intercalate (settings.map fun s => (s.1 ++ "=" ++ s.2).toList) := by
    rw [settingsText, String.toList_intercalate, List.map_map]
    rfl
  have htext : settingsText settings =
      String.ofList ([' '].intercalate (settings.map fun s => (s.1 ++ "=" ++ s.2).toList)) := by
    rw [← hchars, String.ofList_toList]
  have htrim : trim (settingsText settings) = settingsText settings := by
    rw [htext, trim, String.toList_ofList, trimChars_of_ends (intercalate_ends hwords)]
  rw [maskDsn]
  simp only [htrim, hurl, Bool.false_eq_true, if_false]
  rw [htext, fields_intercalate hwords, settingsText, List.map_map, List.map_map, List.map_map]
  refine congrArg (String.intercalate " ") (List.map_congr_left fun s hs => ?_)
  simp only [Function.comp_apply, String.ofList_toList]
  exact maskWord_setting fun h => (hk s hs '=' h).1 rfl

/-- Host, port and a password holding a colon: only the password is hidden. -/
theorem masks_password_word :
    (∀ s ∈ [("host", "db"), ("port", "5432"), ("password", "pa:ss")], ∀ c ∈ s.1.toList, c ≠ '=' ∧ isBlank c = false) ∧
      (∀ s ∈ [("host", "db"), ("port", "5432"), ("password", "pa:ss")], ∀ c ∈ s.2.toList, isBlank c = false) ∧
      (settingsText [("host", "db"), ("port", "5432"), ("password", "pa:ss")]).contains "://" = false ∧
      maskDsn (settingsText [("host", "db"), ("port", "5432"), ("password", "pa:ss")]) =
        settingsText ([("host", "db"), ("port", "5432"), ("password", "pa:ss")].map
          fun s => (s.1, if equalFold s.1 "password" then redacted else s.2)) := by
  have hurl : (settingsText [("host", "db"), ("port", "5432"), ("password", "pa:ss")]).contains "://" = false := by
    cbv
  refine ⟨?_, ?_, hurl, maskDsn_settingsText _ ?_ ?_ hurl⟩ <;> simp [isBlank]

-- With blanks around its `=`, a password is three words and is kept.
example : maskDsn "host=db password = secret" = "host=db password = secret" := by
  have ht : trim "host=db password = secret" = "host=db password = secret" := by decide +kernel
  have h : ("host=db password = secret").contains "://" = false := by cbv
  simp only [maskDsn, ht, h, Bool.false_eq_true, if_false]
  decide +kernel

end Issuance.Logging

import Mathlib
import MonitorWire.Config.Settings
import MonitorWire.Proofs.TextForms

namespace MonitorWire

namespace Config

open Text

/-- The trimmed address with the script name appended, a slash before it where needed, unless
the address already ends with it. -/
def complete (t : String) : String :=
  if t.endsWith jsonrpcFile then t
  else (if t.endsWith "/" then t else t ++ "/") ++ jsonrpcFile

theorem normalizeApiUrl_eq (url : String) :
    normalizeApiUrl url =
      if (complete (Text.trim url)).startsWith "http" then complete (Text.trim url)
      else "http://" ++ complete (Text.trim url) := rfl

def appended : List (List Char) := [[], jsonrpcFile.toList, '/' :: jsonrpcFile.toList]

theorem toList_complete (t : String) :
    ∃ s ∈ appended, (s = '/' :: jsonrpcFile.toList → ¬ ['/'] <:+ t.toList) ∧
      (complete t).toList = t.toList ++ s := by
  unfold complete
  by_cases hfile : t.endsWith jsonrpcFile = true
  · exact ⟨[], by simp [appended], by simp, by simp [hfile]⟩
  · by_cases hslash : t.endsWith "/" = true
    · exact ⟨jsonrpcFile.toList, by simp [appended], by simp, by simp [hfile, hslash]⟩
    · have hslash' : ¬ ['/'] <:+ t.toList := by
        simpa [endsWith_eq_true_iff] using hslash
      exact ⟨'/' :: jsonrpcFile.toList, by simp [appended], fun _ => hslash',
        by simp [hfile, hslash]⟩

theorem complete_endsWith (t : String) : (complete t).endsWith jsonrpcFile = true := by
  unfold complete
  split
  · assumption
  · rw [endsWith_eq_true_iff, String.toList_append]
    exact List.suffix_append _ _

def schemes : List (List Char) := ["http".toList, "http://".toList, "https://".toList]

/-- A scheme cannot be completed out of a shorter start of it: what completing appends begins
with the script name, or with a slash after a start that does not end with one, and no scheme
continues so. -/
theorem not_prefix_take_append :
    ∀ p ∈ schemes, ∀ s ∈ appended, ∀ k < p.length,
      (s = '/' :: jsonrpcFile.toList → ¬ ['/'] <:+ p.take k) → ¬ p <+: p.take k ++ s := by
  decide

theorem prefix_complete_iff {p : List Char} (hp : p ∈ schemes) (t : String) :
    p <+: (complete t).toList ↔ p <+: t.toList := by
  obtain ⟨s, hs, hslash, hc⟩ := toList_complete t
  rw [hc]
  refine ⟨fun h => ?_, fun h => h.trans (List.prefix_append _ _)⟩
  by_cases hlen : p.length ≤ t.toList.length
  · exact List.prefix_of_prefix_length_le h (List.prefix_append _ _) hlen
  · -- the address is a proper start of the scheme
    have ht : t.toList <+: p :=
      List.prefix_of_prefix_length_le (List.prefix_append _ _) h (by omega)
    rw [List.prefix_iff_eq_take.1 ht] at h hslash
    exact absurd h (not_prefix_take_append p hp s hs _ (by omega) hslash)

theorem normalizeApiUrl_endsWith (url : String) :
    (normalizeApiUrl url).endsWith jsonrpcFile = true := by
  have hc := complete_endsWith (Text.trim url)
  rw [normalizeApiUrl_eq]
  split
  · exact hc
  · rw [endsWith_eq_true_iff] at hc ⊢
    rw [String.toList_append]
    exact hc.trans (List.suffix_append _ _)

theorem normalizeApiUrl_startsWith_http (url : String) :
    (normalizeApiUrl url).startsWith "http" = true := by
  rw [normalizeApiUrl_eq]
  split
  · assumption
  · rw [startsWith_eq_true_iff, String.toList_append]
    exact List.prefix_append_of_prefix (by decide)

theorem trim_normalizeApiUrl (url : String) :
    Text.trim (normalizeApiUrl url) = normalizeApiUrl url := by
  obtain ⟨rest, hrest⟩ := (startsWith_eq_true_iff _ _).1 (normalizeApiUrl_startsWith_http url)
  obtain ⟨init, hinit⟩ := (endsWith_eq_true_iff _ _).1 (normalizeApiUrl_endsWith url)
  have hhead : (normalizeApiUrl url).toList.head? = some 'h' := by
    rw [← hrest]; rfl
  have hlast : (normalizeApiUrl url).toList.getLast? = some 'p' := by
    rw [← hinit, List.getLast?_append]; rfl
  rw [Text.trim, trimChars_eq_self (by simp [hhead]; decide) (by simp [hlast]; decide),
    String.ofList_toList]

theorem normalizeApiUrl_normalizeApiUrl (url : String) :
    normalizeApiUrl (normalizeApiUrl url) = normalizeApiUrl url := by
  have hcomplete : complete (normalizeApiUrl url) = normalizeApiUrl url := by
    simp [complete, normalizeApiUrl_endsWith]
  rw [normalizeApiUrl_eq (normalizeApiUrl url), trim_normalizeApiUrl, hcomplete,
    if_pos (normalizeApiUrl_startsWith_http url)]

theorem normalizeApiUrl_has_scheme_iff (url : String) :
    ((normalizeApiUrl url).startsWith "http://" = true ∨
        (normalizeApiUrl url).startsWith "https://" = true) ↔
      ((Text.trim url).startsWith "http" = false ∨ (Text.trim url).startsWith "http://" = true ∨
        (Text.trim url).startsWith "https://" = true) := by
  have hhttp := prefix_complete_iff (List.mem_cons_self ..) (Text.trim url)
  have hplain := prefix_complete_iff (by simp [schemes] : "http://".toList ∈ schemes) (Text.trim url)
  have hsecure :=
    prefix_complete_iff (by simp [schemes] : "https://".toList ∈ schemes) (Text.trim url)
  simp only [startsWith_eq_true_iff, Bool.eq_false_iff, ne_eq] at hhttp hplain hsecure ⊢
  rw [normalizeApiUrl_eq]
  by_cases h : (complete (Text.trim url)).startsWith "http" = true
  · -- the address keeps its start
    rw [if_pos h]
    rw [startsWith_eq_true_iff, hhttp] at h
    simp only [hplain, hsecure, h, not_true_eq_false, false_or]
  · -- `http://` is put in front
    rw [if_neg h]
    rw [startsWith_eq_true_iff, hhttp] at h
    simp only [String.toList_append, h, not_false_eq_true, true_or, iff_true]
    exact Or.inl (List.prefix_append _ _)

/-- Completing an address to its endpoint: the endpoint ends with the script name, starts with
`http`, is its own completion, and starts with `http://` or `https://` exactly when the trimmed
address does not start with `http` or already starts with one of the two. -/
theorem normalizeApiUrl_shape_and_idempotent (url : String) :
    (normalizeApiUrl url).endsWith jsonrpcFile = true ∧
      (normalizeApiUrl url).startsWith "http" = true ∧
      normalizeApiUrl (normalizeApiUrl url) = normalizeApiUrl url ∧
      (((normalizeApiUrl url).startsWith "http://" = true ∨
          (normalizeApiUrl url).startsWith "https://" = true) ↔
        ((Text.trim url).startsWith "http" = false ∨ (Text.trim url).startsWith "http://" = true ∨
          (Text.trim url).startsWith "https://" = true)) :=
  ⟨normalizeApiUrl_endsWith url, normalizeApiUrl_startsWith_http url,
    normalizeApiUrl_normalizeApiUrl url, normalizeApiUrl_has_scheme_iff url⟩

/-- A host whose name starts with `http` gets no scheme: `httpd.example.com` is completed to
`httpd.example.com/api_jsonrpc.php`. -/
theorem normalizeApiUrl_leaves_host_without_scheme :
    normalizeApiUrl "httpd.example.com" = "httpd.example.com/api_jsonrpc.php" ∧
      ¬ ((normalizeApiUrl "httpd.example.com").startsWith "http://" = true ∨
        (normalizeApiUrl "httpd.example.com").startsWith "https://" = true) := by
  decide +kernel

end Config

end MonitorWire

-- The start and the end of a text: asking for them and taking them off.

namespace AppBoundary.Text

/-- The text begins with `start`. -/
def startsWith (start text : String) : Bool :=
  start.toList.isPrefixOf text.toList

/-- The text ends with `ending`. -/
def endsWith (ending text : String) : Bool :=
  ending.toList.isSuffixOf text.toList

/-- What follows `start` in a text that begins with it. -/
def afterStart? (start text : String) : Option String :=
  if startsWith start text then some (String.ofList (text.toList.drop start.toList.length)) else none

/-- What comes before `ending` in a text that ends with it. -/
def beforeEnd? (ending text : String) : Option String :=
  if endsWith ending text then
    some (String.ofList (text.toList.take (text.toList.length - ending.toList.length)))
  else none

theorem afterStart?_append (start rest : String) : afterStart? start (start ++ rest) = some rest := by
  simp [afterStart?, startsWith, List.isPrefixOf_iff_prefix]

theorem eq_of_afterStart?_eq_some {start text rest : String} (h : afterStart? start text = some rest) :
    text = start ++ rest := by
  unfold afterStart? at h
  split at h
  · rename_i hs
    obtain ⟨behind, hb⟩ := List.isPrefixOf_iff_prefix.1 hs
    simp only [Option.some.injEq] at h
    apply String.toList_inj.1
    rw [← h, String.toList_append, String.toList_ofList, ← hb]
    simp
  · simp at h

theorem beforeEnd?_append (rest ending : String) : beforeEnd? ending (rest ++ ending) = some rest := by
  simp [beforeEnd?, endsWith, List.isSuffixOf_iff_suffix]

theorem eq_of_beforeEnd?_eq_some {ending text rest : String} (h : beforeEnd? ending text = some rest) :
    text = rest ++ ending := by
  unfold beforeEnd? at h
  split at h
  · rename_i he
    obtain ⟨before, hb⟩ := List.isSuffixOf_iff_suffix.1 he
    simp only [Option.some.injEq] at h
    apply String.toList_inj.1
    rw [← h, String.toList_append, String.toList_ofList, ← hb]
    simp
  · simp at h

end AppBoundary.Text

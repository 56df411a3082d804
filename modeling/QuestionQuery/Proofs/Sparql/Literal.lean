import QuestionQuery.Proofs.Sparql.Lexing
import QuestionQuery.Sparql.Query

/-
  What queries have between single quotes.

  Whatever characters a text has, escaped it may stand
  between single quotes, and so may the terms that are made
  of texts and the search for all of them.

  Main statements:
    * `Sparql.isBody_escaped`
    * `Sparql.isBody_searchText_fuzzyTerms`
    * `Sparql.isBody_searchText_exactTerms`
-/

namespace QuestionQuery

namespace Sparql

/- Whatever a character is, its escaped form may be quoted. -/
theorem isBody_escapedChar
    (c : Char) :
    IsBody '\'' (escapedChar c) := by
  unfold escapedChar
  split
  · exact .escape rfl .nil
  split
  · exact .escape rfl .nil
  split
  · exact .escape rfl .nil
  split
  · exact .escape rfl .nil
  · next hBackslash hQuote hNewline hReturn =>
      have hPlain : isPlain c := by
        simp [isPlain, hBackslash, hNewline, hReturn]
      exact .plain hQuote hPlain .nil

/- Whatever a text is, its escaped form may be quoted. -/
theorem isBody_escaped
    (s : String) :
    IsBody '\'' (escaped s).toList := by
  rw [escaped, String.toList_ofList]
  induction s.toList with
  | nil => exact .nil
  | cons c cs ih => exact (isBody_escapedChar c).append ih

/- The term of a token may be quoted. -/
theorem isBody_fuzzyTerm
    (token : String) :
    IsBody '\'' (fuzzyTerm token).toList := by
  have hSuffix : IsBody '\'' "~1".toList :=
    .of_all (by simp [isPlain])
  rw [fuzzyTerm, String.toList_append]
  exact (isBody_escaped token).append hSuffix

/- The term of a phrase may be quoted. -/
theorem isBody_exactTerm
    (phrase : String) :
    IsBody '\'' (exactTerm phrase).toList := by
  have hMark : IsBody '\'' "\"".toList :=
    .of_all (by simp [isPlain])
  rw [exactTerm, String.toList_append, String.toList_append]
  exact (hMark.append (isBody_escaped phrase)).append hMark

/- A search for all terms may be quoted if each may. -/
theorem isBody_searchText
    {terms : List String}
    (hTerms : ∀ term ∈ terms, IsBody '\'' term.toList) :
    IsBody '\'' (searchText terms).toList := by
  have hSep : IsBody '\'' " AND ".toList :=
    .of_all (by simp [isPlain])
  rw [searchText, String.toList_intercalate]
  apply hSep.intercalate
  simpa using hTerms

/- A search for tokens may be quoted. -/
theorem isBody_searchText_fuzzyTerms
    (o : Options)
    (tokens : SortedSet String) :
    IsBody '\'' (searchText (fuzzyTerms o tokens)).toList := by
  apply isBody_searchText
  intro term hTerm
  rcases List.mem_map.mp hTerm with ⟨token, -, rfl⟩
  exact isBody_fuzzyTerm token

/- A search for phrases may be quoted. -/
theorem isBody_searchText_exactTerms
    (phrases : SortedSet String) :
    IsBody '\'' (searchText (exactTerms phrases)).toList := by
  apply isBody_searchText
  intro term hTerm
  rcases List.mem_map.mp hTerm with ⟨phrase, -, rfl⟩
  exact isBody_exactTerm phrase

end Sparql

end QuestionQuery

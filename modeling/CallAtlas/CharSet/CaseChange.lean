import CallAtlas.CharSet.Case

/-!
# Changes of case

The characters that change under a change of case. Nearly all of these are the code points that fold
and the ones that they fold to.

## Main definitions

* `changesWhenFolded`, `changesWhenLowered`, `changesWhenRaised`, `changesWhenTitled`: the
  characters that change under one change of case
* `changesWhenMapped`: the characters that change under a change of case to a given one
-/

namespace CallAtlas.CharSet

/-- The set of the code points that fold. -/
def foldSources : CharSet := ofRanges (foldings.map fun f => (f.1, f.1))

/-- The set of the code points that others fold to. -/
def foldTargets : CharSet := ofRanges (foldings.map fun f => (f.2, f.2))

/-- The set of the characters that fold to more than one character. -/
def foldedFurther : CharSet :=
  ofRanges
    [(0xDF, 0xDF), (0x130, 0x130), (0x149, 0x149), (0x587, 0x587), (0x1E9A, 0x1E9A),
      (0x1F80, 0x1F87), (0x1F90, 0x1F97), (0x1FA0, 0x1FA7), (0x1FB2, 0x1FB4), (0x1FB7, 0x1FB7),
      (0x1FC2, 0x1FC4), (0x1FC7, 0x1FC7), (0x1FF2, 0x1FF4), (0x1FF7, 0x1FF7), (0xFB00, 0xFB04),
      (0xFB06, 0xFB06), (0xFB13, 0xFB17)]

/-- The set of the characters that fold like their normal forms. -/
def foldedAlready : CharSet := ofRanges [(0x1FBE, 0x1FBE), (0x1FD3, 0x1FD3), (0x1FE3, 0x1FE3)]

/-- The set of the characters that folding changes. -/
def changesWhenFolded : CharSet := (foldSources.diff foldedAlready).union foldedFurther

/-- The set of the characters that have a lower case and do not fold to it. -/
def loweredOnly : CharSet := ofRanges [(0x130, 0x130), (0x13A0, 0x13F5)]

/-- The set of the characters that fold and are in lower case. -/
def foldedOnly : CharSet :=
  ofRanges
    [(0xB5, 0xB5), (0x17F, 0x17F), (0x345, 0x345), (0x3C2, 0x3C2), (0x3D0, 0x3D1), (0x3D5, 0x3D6),
      (0x3F0, 0x3F1), (0x3F5, 0x3F5), (0x13F8, 0x13FD), (0x1C80, 0x1C88), (0x1E9B, 0x1E9B),
      (0x1FBE, 0x1FBE), (0x1FD3, 0x1FD3), (0x1FE3, 0x1FE3), (0xAB70, 0xABBF), (0xFB05, 0xFB05)]

/-- The set of the characters that differ from their lower case. -/
def changesWhenLowered : CharSet := (foldSources.diff foldedOnly).union loweredOnly

/-- The set of the characters that have an upper case and that nothing folds to. -/
def raisedOnly : CharSet :=
  ofRanges
    [(0xB5, 0xB5), (0x131, 0x131), (0x149, 0x149), (0x17F, 0x17F), (0x1C5, 0x1C5), (0x1C8, 0x1C8),
      (0x1CB, 0x1CB), (0x1F0, 0x1F0), (0x1F2, 0x1F2), (0x345, 0x345), (0x3C2, 0x3C2),
      (0x3D0, 0x3D1), (0x3D5, 0x3D6), (0x3F0, 0x3F1), (0x3F5, 0x3F5), (0x587, 0x587),
      (0x13F8, 0x13FD), (0x1C80, 0x1C88), (0x1E96, 0x1E9B), (0x1F50, 0x1F50), (0x1F52, 0x1F52),
      (0x1F54, 0x1F54), (0x1F56, 0x1F56), (0x1F88, 0x1F8F), (0x1F98, 0x1F9F), (0x1FA8, 0x1FAF),
      (0x1FB2, 0x1FB2), (0x1FB4, 0x1FB4), (0x1FB6, 0x1FB7), (0x1FBC, 0x1FBC), (0x1FBE, 0x1FBE),
      (0x1FC2, 0x1FC2), (0x1FC4, 0x1FC4), (0x1FC6, 0x1FC7), (0x1FCC, 0x1FCC), (0x1FD2, 0x1FD3),
      (0x1FD6, 0x1FD7), (0x1FE2, 0x1FE4), (0x1FE6, 0x1FE7), (0x1FF2, 0x1FF2), (0x1FF4, 0x1FF4),
      (0x1FF6, 0x1FF7), (0x1FFC, 0x1FFC), (0xAB70, 0xABBF), (0xFB00, 0xFB05), (0xFB13, 0xFB17)]

/-- The set of the characters that others fold to and that are in upper case. -/
def targetsOnly : CharSet := ofRanges [(0x13A0, 0x13F5)]

/-- The set of the characters that differ from their upper case. -/
def changesWhenRaised : CharSet := (foldTargets.diff targetsOnly).union raisedOnly

/-- The set of the characters in upper case that differ from their title case. -/
def titledOnly : CharSet :=
  ofRanges
    [(0x1C4, 0x1C4), (0x1C7, 0x1C7), (0x1CA, 0x1CA), (0x1F1, 0x1F1)]

/-- The set of the characters that differ from their upper case, but not from their title case. -/
def titledAlready : CharSet :=
  ofRanges
    [(0x1C5, 0x1C5), (0x1C8, 0x1C8), (0x1CB, 0x1CB), (0x1F2, 0x1F2), (0x10D0, 0x10FA),
      (0x10FD, 0x10FF), (0x1F88, 0x1F8F), (0x1F98, 0x1F9F), (0x1FA8, 0x1FAF), (0x1FBC, 0x1FBC),
      (0x1FCC, 0x1FCC), (0x1FFC, 0x1FFC)]

/-- The set of the characters that differ from their title case. -/
def changesWhenTitled : CharSet := (changesWhenRaised.diff titledAlready).union titledOnly

/-- The set of the characters that differ from their lower, upper or title case. -/
def changesWhenMapped : CharSet := ofList [changesWhenLowered, changesWhenRaised, changesWhenTitled]

end CallAtlas.CharSet

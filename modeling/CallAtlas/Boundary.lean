/-!
# The framework boundary

Classes of the platform are told from those of the application by the start of their names. Empty
beginnings are left out, since every name starts with them.

## Main definitions

* `Boundary`: the beginnings of the names of framework classes
* `Boundary.contains`: whether a class belongs to the framework
* `Boundary.android`: the boundary of the Android platform
-/

namespace CallAtlas

/-- The beginnings of the names of framework classes. -/
structure Boundary where
  prefixes : List String
  nonempty : ∀ p ∈ prefixes, p ≠ ""
deriving DecidableEq

namespace Boundary

/-- The boundary that no class lies behind. -/
def none : Boundary := ⟨[], by simp⟩

instance : Inhabited Boundary := ⟨none⟩

/-- The boundary given by these beginnings, empty ones left out. -/
def ofPrefixes (prefixes : List String) : Boundary :=
  ⟨prefixes.filter (· ≠ ""), by simp⟩

/-- Whether a class belongs to the framework. -/
def contains (boundary : Boundary) (className : String) : Bool :=
  let name := className.toList
  boundary.prefixes.any fun p => p.toList.isPrefixOf name

/-- The packages of the Android platform. -/
def androidPrefixes : List String :=
  ["Landroid/", "Landroidx/", "Ldalvik/", "Ljava/", "Ljavax/", "Ljunit/", "Lkotlin/",
    "Lorg/apache/", "Lorg/json/", "Lorg/w3c/", "Lorg/xml/", "Lorg/xmlpull/",
    "Lcom/google/android/", "Lsun/"]

/-- The boundary of the Android platform. -/
def android : Boundary := ofPrefixes androidPrefixes

@[simp] theorem contains_none (c : String) : none.contains c = false := rfl

end Boundary

end CallAtlas

import GuidelineCompliance.Catalog

/-! Reference documents: where a catalog comes from, and what is said when it cannot be had. A
cache reads the document of an edition until one reading succeeds, and from then on hands out the
catalog read then. -/

namespace GuidelineCompliance

inductive ReferenceError where
  | missing (edition : Edition)
  | unreadable (path : String) (reason : String)
  deriving DecidableEq, Repr

namespace ReferenceError

def message : ReferenceError → String
  | missing edition => "no reference document available for " ++ edition.name
  | unreadable path reason => "failed to read reference document " ++ path ++ ": " ++ reason

def code : ReferenceError → String
  | missing _ => "misra_gcs::catalog::missing"
  | unreadable .. => "misra_gcs::catalog::io"

def help? : ReferenceError → Option String
  | missing edition =>
    some ("provide the reference document `" ++ edition.referenceFile ++ "` for this MISRA version")
  | unreadable .. => none

end ReferenceError

/-- The text of each edition's reference document. -/
abbrev References := Edition → Except ReferenceError String

namespace References

def ofTexts (texts : List (Edition × String)) : References := fun edition =>
  match texts.lookup edition with
  | some text => .ok text
  | none => .error (.missing edition)

def catalog (r : References) (edition : Edition) : Except ReferenceError Catalog :=
  (r edition).map Catalog.ofReference

end References

/-- The catalogs read up to now, and the editions whose documents were asked for, last first. -/
structure CatalogCache where
  catalogs : List (Edition × Catalog) := []
  reads : List Edition := []

namespace CatalogCache

/-- The text of a document, which is never kept. -/
def text (cache : CatalogCache) (r : References) (edition : Edition) :
    Except ReferenceError String × CatalogCache :=
  (r edition, { cache with reads := edition :: cache.reads })

def load (cache : CatalogCache) (r : References) (edition : Edition) :
    Except ReferenceError Catalog × CatalogCache :=
  let (text, cache) := cache.text r edition
  (text.map Catalog.ofReference, cache)

/-- A catalog in its initial state, read only if it has not been read before. -/
def catalog (cache : CatalogCache) (r : References) (edition : Edition) :
    Except ReferenceError Catalog × CatalogCache :=
  match cache.catalogs.lookup edition with
  | some catalog => (.ok catalog, cache)
  | none =>
    match cache.load r edition with
    | (.ok catalog, cache) =>
      (.ok catalog, { cache with catalogs := (edition, catalog) :: cache.catalogs })
    | (.error e, cache) => (.error e, cache)

end CatalogCache

end GuidelineCompliance

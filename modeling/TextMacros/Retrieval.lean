import TextMacros.Journal
import TextMacros.Retrieval.Locator

/-!
# Retrievers

A retriever returns the text at a location. It changes nothing, so what it answers depends on the
locator alone; it may leave entries in the journal. One whose answers change while it is used is no
retriever in this sense, and what is said of every retriever does not speak of it.
-/

namespace TextMacros

/-- A way to find the text at a location. A locator has one answer, however often it is asked. -/
structure Retriever where
  /-- The text at a location, or why there is none. -/
  fetch : (locator : Text) → Observed (Except RetrievalError Text)

namespace Retriever

/-- The retriever that knows some documents by their exact locators. -/
def ofDocuments (documents : List (Text × Text)) : Retriever where
  fetch locator :=
    match documents.lookup locator with
    | some text => ⟨.ok text, []⟩
    | none => ⟨.error (.notFound locator), []⟩

/-- The retriever for locators of a network that is not there. -/
def offline : Retriever where
  fetch locator := ⟨.error (.unreachable locator "there is no network"), []⟩

/-- Sends network locators to one retriever and all others to another. -/
def routed (network files : Retriever) : Retriever where
  fetch locator :=
    if Locator.isNetwork locator then network.fetch locator else files.fetch locator

end Retriever
end TextMacros

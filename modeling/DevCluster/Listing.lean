import DevCluster.Text.Blank
import DevCluster.Text.Lines

/-!
Listings of clusters: one name to a line, with blanks around it or not.
-/

namespace DevCluster.Listing

/-- The names of a listing in order, among them an empty one for each blank line. -/
def names (listing : String) : List String :=
  (Text.lines listing.toList).map fun line => String.ofList (Text.trim line)

def lists (listing name : String) : Bool :=
  (names listing).contains name

end DevCluster.Listing

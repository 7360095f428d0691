import SqlTutor.Dataset.Basic

/-!
The sample tables that every exercise is about: users, posts, comments and orders.
-/
namespace SqlTutor.Dataset

def user (id : Int64) (name email role createdAt : String) : Row :=
  .ofList [("id", .int id), ("name", .text name), ("email", .text email), ("role", .text role),
    ("created_at", .text createdAt)]

def users : List Row :=
  [user 1 "Alice" "alice@example.com" "admin" "2024-01-15",
   user 2 "Bob" "bob@example.com" "user" "2024-02-20",
   user 3 "Carol" "carol@example.com" "user" "2024-03-10",
   user 4 "David" "david@example.com" "moderator" "2024-03-15"]

def post (id userId : Int64) (title content : String) (published : Bool) (createdAt : String) :
    Row :=
  .ofList [("id", .int id), ("user_id", .int userId), ("title", .text title),
    ("content", .text content), ("published", .bool published), ("created_at", .text createdAt)]

def posts : List Row :=
  [post 1 1 "Getting Started with SQL" "SQL is..." true "2024-01-20",
   post 2 1 "Advanced Queries" "JOINs are..." true "2024-02-01",
   post 3 2 "My First Post" "Hello..." true "2024-02-25",
   post 4 3 "Draft Post" "WIP..." false "2024-03-12",
   post 5 2 "PostgreSQL Tips" "Postgres..." true "2024-03-20"]

def comment (id postId userId : Int64) (text createdAt : String) : Row :=
  .ofList [("id", .int id), ("post_id", .int postId), ("user_id", .int userId),
    ("text", .text text), ("created_at", .text createdAt)]

def comments : List Row :=
  [comment 1 1 2 "Great intro!" "2024-01-21",
   comment 2 1 3 "Very helpful" "2024-01-22",
   comment 3 2 3 "I learned a lot" "2024-02-02",
   comment 4 3 1 "Welcome!" "2024-02-26",
   comment 5 5 4 "Nice tips" "2024-03-21"]

/-- An order with its total in hundredths. -/
def order (id userId : Int64) (hundredths : Nat) (status createdAt : String) : Row :=
  .ofList [("id", .int id), ("user_id", .int userId),
    ("total", .float (Double.ofRatio false hundredths 100)), ("status", .text status),
    ("created_at", .text createdAt)]

def orders : List Row :=
  [order 1 1 9999 "completed" "2024-01-25",
   order 2 2 14950 "completed" "2024-02-28",
   order 3 1 7500 "pending" "2024-03-15",
   order 4 3 20000 "completed" "2024-03-18"]

def sample : Dataset :=
  .ofList [("users", users), ("posts", posts), ("comments", comments), ("orders", orders)]

end SqlTutor.Dataset

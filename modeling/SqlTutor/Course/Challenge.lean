import SqlTutor.Course.Task
import SqlTutor.Text.Quoted

/-!
Open-ended challenges, which have no answer on file and belong to no module.
-/
namespace SqlTutor.Course

open Query

inductive Difficulty where
  | easy
  | medium
  | hard
deriving DecidableEq

namespace Difficulty

def name : Difficulty → String
  | easy => "easy"
  | medium => "medium"
  | hard => "hard"

def title : Difficulty → String
  | easy => "Easy"
  | medium => "Medium"
  | hard => "Hard"

def toJson (d : Difficulty) : Json := .string d.name

end Difficulty

structure Challenge extends Task where
  difficulty : Difficulty

namespace Challenge

def notAdmins : Challenge where
  id := "c1"
  difficulty := .easy
  prompt := "Find all users who are NOT admins"
  hint := "Use != or <> for not equal"
  accepts r := r.rows.length == 3 && r.rows.all fun row => textAt? row "role" != some "admin"

def countPosts : Challenge where
  id := "c2"
  difficulty := .easy
  prompt := "Count the total number of posts"
  hint := "Use COUNT(*)"
  accepts r := firstRow r fun row => holds row "count" (.int 5)

def publishedWithAuthors : Challenge where
  id := "c3"
  difficulty := .medium
  prompt := "Find all published posts with their author names"
  hint := "JOIN users and posts, filter by published"
  accepts r :=
    r.rows.length == 4 && firstRow r fun row => hasText row "name" && hasText row "title"

def largeOrders : Challenge where
  id := "c4"
  difficulty := .medium
  prompt := "Find users who have placed orders over $100"
  hint := "JOIN users and orders, use WHERE total > 100"
  accepts r := 2 ≤ r.rows.length && r.rows.all fun row => hasText row "name"

def postsPerUser : Challenge where
  id := "c5"
  difficulty := .medium
  prompt := "Count how many posts each user has written"
  hint := "GROUP BY user_id with COUNT"
  accepts r := 3 ≤ r.rows.length && firstRow r fun row => row.contains "count"

def mostPosts : Challenge where
  id := "c6"
  difficulty := .hard
  prompt := "Find the user with the most posts"
  hint := "GROUP BY, ORDER BY count DESC, LIMIT 1"
  accepts r := r.rows.length == 1

def recentOrders : Challenge where
  id := "c7"
  difficulty := .easy
  prompt := "Get the 3 most recent orders"
  hint := "ORDER BY created_at DESC LIMIT 3"
  accepts r := r.rows.length == 3

def commentsOnPosts : Challenge where
  id := "c8"
  difficulty := .medium
  prompt := "Find all comments on posts written by Alice"
  hint := "You need to join comments → posts → users"
  accepts r := !r.rows.isEmpty

def all : List Challenge :=
  [notAdmins, countPosts, publishedWithAuthors, largeOrders, postsPerUser, mostPosts,
   recentOrders, commentsOnPosts]

def find? (id : String) : Option Challenge := all.find? fun c => c.id == id

/-- A short description for developers. -/
def summary (c : Challenge) : String :=
  String.ofList <|
    "Challenge ".toList ++ ['\x7b'] ++ " id: ".toList ++ Text.quoted c.id.toList ++
      ", difficulty: ".toList ++ c.difficulty.title.toList ++ ", .. ".toList ++ ['\x7d']

end Challenge

end SqlTutor.Course

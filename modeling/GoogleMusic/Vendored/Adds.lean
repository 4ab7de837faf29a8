import GoogleMusic.Schedules.Adding
import GoogleMusic.Vendored.Contracts

namespace GoogleMusic

open Foundation

variable {ρ : Type} {service : Service ρ}

section Adding

variable {id name : String} {playlist : Option String} {type : Int} {state : ρ}

end Adding

end GoogleMusic

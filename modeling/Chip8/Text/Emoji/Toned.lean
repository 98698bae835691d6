/-!
# Emoji of people by name

Emoji of people and parts of the body that have a skin tone, under their names.
-/

namespace Chip8.Text.Emoji

def tonedToL : List (String × String) := [
  ("adult_dark_skin_tone", "🧑🏿"), ("adult_light_skin_tone", "🧑🏻"),
  ("adult_medium-dark_skin_tone", "🧑🏾"),
  ("adult_medium-light_skin_tone", "🧑🏼"), ("adult_medium_skin_tone", "🧑🏽"),
  ("baby_angel_dark_skin_tone", "👼🏿"), ("baby_angel_light_skin_tone", "👼🏻"),
  ("baby_angel_medium-dark_skin_tone", "👼🏾"),
  ("baby_angel_medium-light_skin_tone", "👼🏼"),
  ("baby_angel_medium_skin_tone", "👼🏽"), ("baby_dark_skin_tone", "👶🏿"),
  ("baby_light_skin_tone", "👶🏻"), ("baby_medium-dark_skin_tone", "👶🏾"),
  ("baby_medium-light_skin_tone", "👶🏼"), ("baby_medium_skin_tone", "👶🏽"),
  ("backhand_index_pointing_down_dark_skin_tone", "👇🏿"),
  ("backhand_index_pointing_down_light_skin_tone", "👇🏻"),
  ("backhand_index_pointing_down_medium-dark_skin_tone", "👇🏾"),
  ("backhand_index_pointing_down_medium-light_skin_tone", "👇🏼"),
  ("backhand_index_pointing_down_medium_skin_tone", "👇🏽"),
  ("backhand_index_pointing_left_dark_skin_tone", "👈🏿"),
  ("backhand_index_pointing_left_light_skin_tone", "👈🏻"),
  ("backhand_index_pointing_left_medium-dark_skin_tone", "👈🏾"),
  ("backhand_index_pointing_left_medium-light_skin_tone", "👈🏼"),
  ("backhand_index_pointing_left_medium_skin_tone", "👈🏽"),
  ("backhand_index_pointing_right_dark_skin_tone", "👉🏿"),
  ("backhand_index_pointing_right_light_skin_tone", "👉🏻"),
  ("backhand_index_pointing_right_medium-dark_skin_tone", "👉🏾"),
  ("backhand_index_pointing_right_medium-light_skin_tone", "👉🏼"),
  ("backhand_index_pointing_right_medium_skin_tone", "👉🏽"),
  ("backhand_index_pointing_up_dark_skin_tone", "👆🏿"),
  ("backhand_index_pointing_up_light_skin_tone", "👆🏻"),
  ("backhand_index_pointing_up_medium-dark_skin_tone", "👆🏾"),
  ("backhand_index_pointing_up_medium-light_skin_tone", "👆🏼"),
  ("backhand_index_pointing_up_medium_skin_tone", "👆🏽"),
  ("bearded_person_dark_skin_tone", "🧔🏿"),
  ("bearded_person_light_skin_tone", "🧔🏻"),
  ("bearded_person_medium-dark_skin_tone", "🧔🏾"),
  ("bearded_person_medium-light_skin_tone", "🧔🏼"),
  ("bearded_person_medium_skin_tone", "🧔🏽"),
  ("blond-haired_man_dark_skin_tone", "👱🏿‍♂️"),
  ("blond-haired_man_light_skin_tone", "👱🏻‍♂️"),
  ("blond-haired_man_medium-dark_skin_tone", "👱🏾‍♂️"),
  ("blond-haired_man_medium-light_skin_tone", "👱🏼‍♂️"),
  ("blond-haired_man_medium_skin_tone", "👱🏽‍♂️"),
  ("blond-haired_person_dark_skin_tone", "👱🏿"),
  ("blond-haired_person_light_skin_tone", "👱🏻"),
  ("blond-haired_person_medium-dark_skin_tone", "👱🏾"),
  ("blond-haired_person_medium-light_skin_tone", "👱🏼"),
  ("blond-haired_person_medium_skin_tone", "👱🏽"),
  ("blond-haired_woman_dark_skin_tone", "👱🏿‍♀️"),
  ("blond-haired_woman_light_skin_tone", "👱🏻‍♀️"),
  ("blond-haired_woman_medium-dark_skin_tone", "👱🏾‍♀️"),
  ("blond-haired_woman_medium-light_skin_tone", "👱🏼‍♀️"),
  ("blond-haired_woman_medium_skin_tone", "👱🏽‍♀️"),
  ("boy_dark_skin_tone", "👦🏿"), ("boy_light_skin_tone", "👦🏻"),
  ("boy_medium-dark_skin_tone", "👦🏾"), ("boy_medium-light_skin_tone", "👦🏼"),
  ("boy_medium_skin_tone", "👦🏽"), ("breast-feeding_dark_skin_tone", "🤱🏿"),
  ("breast-feeding_light_skin_tone", "🤱🏻"),
  ("breast-feeding_medium-dark_skin_tone", "🤱🏾"),
  ("breast-feeding_medium-light_skin_tone", "🤱🏼"),
  ("breast-feeding_medium_skin_tone", "🤱🏽"),
  ("bride_with_veil_dark_skin_tone", "👰🏿"),
  ("bride_with_veil_light_skin_tone", "👰🏻"),
  ("bride_with_veil_medium-dark_skin_tone", "👰🏾"),
  ("bride_with_veil_medium-light_skin_tone", "👰🏼"),
  ("bride_with_veil_medium_skin_tone", "👰🏽"),
  ("call_me_hand_dark_skin_tone", "🤙🏿"),
  ("call_me_hand_light_skin_tone", "🤙🏻"),
  ("call_me_hand_medium-dark_skin_tone", "🤙🏾"),
  ("call_me_hand_medium-light_skin_tone", "🤙🏼"),
  ("call_me_hand_medium_skin_tone", "🤙🏽"), ("child_dark_skin_tone", "🧒🏿"),
  ("child_light_skin_tone", "🧒🏻"), ("child_medium-dark_skin_tone", "🧒🏾"),
  ("child_medium-light_skin_tone", "🧒🏼"), ("child_medium_skin_tone", "🧒🏽"),
  ("clapping_hands_dark_skin_tone", "👏🏿"),
  ("clapping_hands_light_skin_tone", "👏🏻"),
  ("clapping_hands_medium-dark_skin_tone", "👏🏾"),
  ("clapping_hands_medium-light_skin_tone", "👏🏼"),
  ("clapping_hands_medium_skin_tone", "👏🏽"),
  ("construction_worker_dark_skin_tone", "👷🏿"),
  ("construction_worker_light_skin_tone", "👷🏻"),
  ("construction_worker_medium-dark_skin_tone", "👷🏾"),
  ("construction_worker_medium-light_skin_tone", "👷🏼"),
  ("construction_worker_medium_skin_tone", "👷🏽"),
  ("crossed_fingers_dark_skin_tone", "🤞🏿"),
  ("crossed_fingers_light_skin_tone", "🤞🏻"),
  ("crossed_fingers_medium-dark_skin_tone", "🤞🏾"),
  ("crossed_fingers_medium-light_skin_tone", "🤞🏼"),
  ("crossed_fingers_medium_skin_tone", "🤞🏽"), ("dark_skin_tone", "🏿"),
  ("detective_dark_skin_tone", "🕵🏿"), ("detective_light_skin_tone", "🕵🏻"),
  ("detective_medium-dark_skin_tone", "🕵🏾"),
  ("detective_medium-light_skin_tone", "🕵🏼"),
  ("detective_medium_skin_tone", "🕵🏽"), ("ear_dark_skin_tone", "👂🏿"),
  ("ear_light_skin_tone", "👂🏻"), ("ear_medium-dark_skin_tone", "👂🏾"),
  ("ear_medium-light_skin_tone", "👂🏼"), ("ear_medium_skin_tone", "👂🏽"),
  ("elf_dark_skin_tone", "🧝🏿"), ("elf_light_skin_tone", "🧝🏻"),
  ("elf_medium-dark_skin_tone", "🧝🏾"), ("elf_medium-light_skin_tone", "🧝🏼"),
  ("elf_medium_skin_tone", "🧝🏽"),
  ("emoji_modifier_fitzpatrick_type__1__2", "🏻"),
  ("emoji_modifier_fitzpatrick_type__3", "🏼"),
  ("emoji_modifier_fitzpatrick_type__4", "🏽"),
  ("emoji_modifier_fitzpatrick_type__5", "🏾"),
  ("emoji_modifier_fitzpatrick_type__6", "🏿"), ("fairy_dark_skin_tone", "🧚🏿"),
  ("fairy_light_skin_tone", "🧚🏻"), ("fairy_medium-dark_skin_tone", "🧚🏾"),
  ("fairy_medium-light_skin_tone", "🧚🏼"), ("fairy_medium_skin_tone", "🧚🏽"),
  ("flexed_biceps_dark_skin_tone", "💪🏿"),
  ("flexed_biceps_light_skin_tone", "💪🏻"),
  ("flexed_biceps_medium-dark_skin_tone", "💪🏾"),
  ("flexed_biceps_medium-light_skin_tone", "💪🏼"),
  ("flexed_biceps_medium_skin_tone", "💪🏽"),
  ("folded_hands_dark_skin_tone", "🙏🏿"),
  ("folded_hands_light_skin_tone", "🙏🏻"),
  ("folded_hands_medium-dark_skin_tone", "🙏🏾"),
  ("folded_hands_medium-light_skin_tone", "🙏🏼"),
  ("folded_hands_medium_skin_tone", "🙏🏽"), ("girl_dark_skin_tone", "👧🏿"),
  ("girl_light_skin_tone", "👧🏻"), ("girl_medium-dark_skin_tone", "👧🏾"),
  ("girl_medium-light_skin_tone", "👧🏼"), ("girl_medium_skin_tone", "👧🏽"),
  ("guard_dark_skin_tone", "💂🏿"), ("guard_light_skin_tone", "💂🏻"),
  ("guard_medium-dark_skin_tone", "💂🏾"),
  ("guard_medium-light_skin_tone", "💂🏼"), ("guard_medium_skin_tone", "💂🏽"),
  ("hand_with_fingers_splayed_dark_skin_tone", "🖐🏿"),
  ("hand_with_fingers_splayed_light_skin_tone", "🖐🏻"),
  ("hand_with_fingers_splayed_medium-dark_skin_tone", "🖐🏾"),
  ("hand_with_fingers_splayed_medium-light_skin_tone", "🖐🏼"),
  ("hand_with_fingers_splayed_medium_skin_tone", "🖐🏽"),
  ("horse_racing_dark_skin_tone", "🏇🏿"),
  ("horse_racing_light_skin_tone", "🏇🏻"),
  ("horse_racing_medium-dark_skin_tone", "🏇🏾"),
  ("horse_racing_medium-light_skin_tone", "🏇🏼"),
  ("horse_racing_medium_skin_tone", "🏇🏽"),
  ("index_pointing_up_dark_skin_tone", "☝🏿"),
  ("index_pointing_up_light_skin_tone", "☝🏻"),
  ("index_pointing_up_medium-dark_skin_tone", "☝🏾"),
  ("index_pointing_up_medium-light_skin_tone", "☝🏼"),
  ("index_pointing_up_medium_skin_tone", "☝🏽"),
  ("left-facing_fist_dark_skin_tone", "🤛🏿"),
  ("left-facing_fist_light_skin_tone", "🤛🏻"),
  ("left-facing_fist_medium-dark_skin_tone", "🤛🏾"),
  ("left-facing_fist_medium-light_skin_tone", "🤛🏼"),
  ("left-facing_fist_medium_skin_tone", "🤛🏽"), ("light_skin_tone", "🏻"),
  ("love-you_gesture_dark_skin_tone", "🤟🏿"),
  ("love-you_gesture_light_skin_tone", "🤟🏻"),
  ("love-you_gesture_medium-dark_skin_tone", "🤟🏾"),
  ("love-you_gesture_medium-light_skin_tone", "🤟🏼"),
  ("love-you_gesture_medium_skin_tone", "🤟🏽")]

def tonedToM : List (String × String) := [
  ("mage_dark_skin_tone", "🧙🏿"), ("mage_light_skin_tone", "🧙🏻"),
  ("mage_medium-dark_skin_tone", "🧙🏾"), ("mage_medium-light_skin_tone", "🧙🏼"),
  ("mage_medium_skin_tone", "🧙🏽"), ("man_artist_dark_skin_tone", "👨🏿‍🎨"),
  ("man_artist_light_skin_tone", "👨🏻‍🎨"),
  ("man_artist_medium-dark_skin_tone", "👨🏾‍🎨"),
  ("man_artist_medium-light_skin_tone", "👨🏼‍🎨"),
  ("man_artist_medium_skin_tone", "👨🏽‍🎨"),
  ("man_astronaut_dark_skin_tone", "👨🏿‍🚀"),
  ("man_astronaut_light_skin_tone", "👨🏻‍🚀"),
  ("man_astronaut_medium-dark_skin_tone", "👨🏾‍🚀"),
  ("man_astronaut_medium-light_skin_tone", "👨🏼‍🚀"),
  ("man_astronaut_medium_skin_tone", "👨🏽‍🚀"),
  ("man_biking_dark_skin_tone", "🚴🏿‍♂️"),
  ("man_biking_light_skin_tone", "🚴🏻‍♂️"),
  ("man_biking_medium-dark_skin_tone", "🚴🏾‍♂️"),
  ("man_biking_medium-light_skin_tone", "🚴🏼‍♂️"),
  ("man_biking_medium_skin_tone", "🚴🏽‍♂️"),
  ("man_bouncing_ball_dark_skin_tone", "⛹🏿‍♂️"),
  ("man_bouncing_ball_light_skin_tone", "⛹🏻‍♂️"),
  ("man_bouncing_ball_medium-dark_skin_tone", "⛹🏾‍♂️"),
  ("man_bouncing_ball_medium-light_skin_tone", "⛹🏼‍♂️"),
  ("man_bouncing_ball_medium_skin_tone", "⛹🏽‍♂️"),
  ("man_bowing_dark_skin_tone", "🙇🏿‍♂️"),
  ("man_bowing_light_skin_tone", "🙇🏻‍♂️"),
  ("man_bowing_medium-dark_skin_tone", "🙇🏾‍♂️"),
  ("man_bowing_medium-light_skin_tone", "🙇🏼‍♂️"),
  ("man_bowing_medium_skin_tone", "🙇🏽‍♂️"),
  ("man_cartwheeling_dark_skin_tone", "🤸🏿‍♂️"),
  ("man_cartwheeling_light_skin_tone", "🤸🏻‍♂️"),
  ("man_cartwheeling_medium-dark_skin_tone", "🤸🏾‍♂️"),
  ("man_cartwheeling_medium-light_skin_tone", "🤸🏼‍♂️"),
  ("man_cartwheeling_medium_skin_tone", "🤸🏽‍♂️"),
  ("man_climbing_dark_skin_tone", "🧗🏿‍♂️"),
  ("man_climbing_light_skin_tone", "🧗🏻‍♂️"),
  ("man_climbing_medium-dark_skin_tone", "🧗🏾‍♂️"),
  ("man_climbing_medium-light_skin_tone", "🧗🏼‍♂️"),
  ("man_climbing_medium_skin_tone", "🧗🏽‍♂️"),
  ("man_construction_worker_dark_skin_tone", "👷🏿‍♂️"),
  ("man_construction_worker_light_skin_tone", "👷🏻‍♂️"),
  ("man_construction_worker_medium-dark_skin_tone", "👷🏾‍♂️"),
  ("man_construction_worker_medium-light_skin_tone", "👷🏼‍♂️"),
  ("man_construction_worker_medium_skin_tone", "👷🏽‍♂️"),
  ("man_cook_dark_skin_tone", "👨🏿‍🍳"), ("man_cook_light_skin_tone", "👨🏻‍🍳"),
  ("man_cook_medium-dark_skin_tone", "👨🏾‍🍳"),
  ("man_cook_medium-light_skin_tone", "👨🏼‍🍳"),
  ("man_cook_medium_skin_tone", "👨🏽‍🍳"), ("man_dancing_dark_skin_tone", "🕺🏿"),
  ("man_dancing_light_skin_tone", "🕺🏻"),
  ("man_dancing_medium-dark_skin_tone", "🕺🏾"),
  ("man_dancing_medium-light_skin_tone", "🕺🏼"),
  ("man_dancing_medium_skin_tone", "🕺🏽"), ("man_dark_skin_tone", "👨🏿"),
  ("man_detective_dark_skin_tone", "🕵🏿‍♂️"),
  ("man_detective_light_skin_tone", "🕵🏻‍♂️"),
  ("man_detective_medium-dark_skin_tone", "🕵🏾‍♂️"),
  ("man_detective_medium-light_skin_tone", "🕵🏼‍♂️"),
  ("man_detective_medium_skin_tone", "🕵🏽‍♂️"),
  ("man_elf_dark_skin_tone", "🧝🏿‍♂️"), ("man_elf_light_skin_tone", "🧝🏻‍♂️"),
  ("man_elf_medium-dark_skin_tone", "🧝🏾‍♂️"),
  ("man_elf_medium-light_skin_tone", "🧝🏼‍♂️"),
  ("man_elf_medium_skin_tone", "🧝🏽‍♂️"),
  ("man_facepalming_dark_skin_tone", "🤦🏿‍♂️"),
  ("man_facepalming_light_skin_tone", "🤦🏻‍♂️"),
  ("man_facepalming_medium-dark_skin_tone", "🤦🏾‍♂️"),
  ("man_facepalming_medium-light_skin_tone", "🤦🏼‍♂️"),
  ("man_facepalming_medium_skin_tone", "🤦🏽‍♂️"),
  ("man_factory_worker_dark_skin_tone", "👨🏿‍🏭"),
  ("man_factory_worker_light_skin_tone", "👨🏻‍🏭"),
  ("man_factory_worker_medium-dark_skin_tone", "👨🏾‍🏭"),
  ("man_factory_worker_medium-light_skin_tone", "👨🏼‍🏭"),
  ("man_factory_worker_medium_skin_tone", "👨🏽‍🏭"),
  ("man_fairy_dark_skin_tone", "🧚🏿‍♂️"),
  ("man_fairy_light_skin_tone", "🧚🏻‍♂️"),
  ("man_fairy_medium-dark_skin_tone", "🧚🏾‍♂️"),
  ("man_fairy_medium-light_skin_tone", "🧚🏼‍♂️"),
  ("man_fairy_medium_skin_tone", "🧚🏽‍♂️"),
  ("man_farmer_dark_skin_tone", "👨🏿‍🌾"),
  ("man_farmer_light_skin_tone", "👨🏻‍🌾"),
  ("man_farmer_medium-dark_skin_tone", "👨🏾‍🌾"),
  ("man_farmer_medium-light_skin_tone", "👨🏼‍🌾"),
  ("man_farmer_medium_skin_tone", "👨🏽‍🌾"),
  ("man_firefighter_dark_skin_tone", "👨🏿‍🚒"),
  ("man_firefighter_light_skin_tone", "👨🏻‍🚒"),
  ("man_firefighter_medium-dark_skin_tone", "👨🏾‍🚒"),
  ("man_firefighter_medium-light_skin_tone", "👨🏼‍🚒"),
  ("man_firefighter_medium_skin_tone", "👨🏽‍🚒"),
  ("man_frowning_dark_skin_tone", "🙍🏿‍♂️"),
  ("man_frowning_light_skin_tone", "🙍🏻‍♂️"),
  ("man_frowning_medium-dark_skin_tone", "🙍🏾‍♂️"),
  ("man_frowning_medium-light_skin_tone", "🙍🏼‍♂️"),
  ("man_frowning_medium_skin_tone", "🙍🏽‍♂️"),
  ("man_gesturing_no_dark_skin_tone", "🙅🏿‍♂️"),
  ("man_gesturing_no_light_skin_tone", "🙅🏻‍♂️"),
  ("man_gesturing_no_medium-dark_skin_tone", "🙅🏾‍♂️"),
  ("man_gesturing_no_medium-light_skin_tone", "🙅🏼‍♂️"),
  ("man_gesturing_no_medium_skin_tone", "🙅🏽‍♂️"),
  ("man_gesturing_ok_dark_skin_tone", "🙆🏿‍♂️"),
  ("man_gesturing_ok_light_skin_tone", "🙆🏻‍♂️"),
  ("man_gesturing_ok_medium-dark_skin_tone", "🙆🏾‍♂️"),
  ("man_gesturing_ok_medium-light_skin_tone", "🙆🏼‍♂️"),
  ("man_gesturing_ok_medium_skin_tone", "🙆🏽‍♂️"),
  ("man_getting_haircut_dark_skin_tone", "💇🏿‍♂️"),
  ("man_getting_haircut_light_skin_tone", "💇🏻‍♂️"),
  ("man_getting_haircut_medium-dark_skin_tone", "💇🏾‍♂️"),
  ("man_getting_haircut_medium-light_skin_tone", "💇🏼‍♂️"),
  ("man_getting_haircut_medium_skin_tone", "💇🏽‍♂️"),
  ("man_getting_massage_dark_skin_tone", "💆🏿‍♂️"),
  ("man_getting_massage_light_skin_tone", "💆🏻‍♂️"),
  ("man_getting_massage_medium-dark_skin_tone", "💆🏾‍♂️"),
  ("man_getting_massage_medium-light_skin_tone", "💆🏼‍♂️"),
  ("man_getting_massage_medium_skin_tone", "💆🏽‍♂️"),
  ("man_golfing_dark_skin_tone", "🏌🏿‍♂️"),
  ("man_golfing_light_skin_tone", "🏌🏻‍♂️"),
  ("man_golfing_medium-dark_skin_tone", "🏌🏾‍♂️"),
  ("man_golfing_medium-light_skin_tone", "🏌🏼‍♂️"),
  ("man_golfing_medium_skin_tone", "🏌🏽‍♂️"),
  ("man_guard_dark_skin_tone", "💂🏿‍♂️"),
  ("man_guard_light_skin_tone", "💂🏻‍♂️"),
  ("man_guard_medium-dark_skin_tone", "💂🏾‍♂️"),
  ("man_guard_medium-light_skin_tone", "💂🏼‍♂️"),
  ("man_guard_medium_skin_tone", "💂🏽‍♂️"),
  ("man_health_worker_dark_skin_tone", "👨🏿‍⚕️"),
  ("man_health_worker_light_skin_tone", "👨🏻‍⚕️"),
  ("man_health_worker_medium-dark_skin_tone", "👨🏾‍⚕️"),
  ("man_health_worker_medium-light_skin_tone", "👨🏼‍⚕️"),
  ("man_health_worker_medium_skin_tone", "👨🏽‍⚕️"),
  ("man_in_lotus_position_dark_skin_tone", "🧘🏿‍♂️"),
  ("man_in_lotus_position_light_skin_tone", "🧘🏻‍♂️"),
  ("man_in_lotus_position_medium-dark_skin_tone", "🧘🏾‍♂️"),
  ("man_in_lotus_position_medium-light_skin_tone", "🧘🏼‍♂️"),
  ("man_in_lotus_position_medium_skin_tone", "🧘🏽‍♂️"),
  ("man_in_steamy_room_dark_skin_tone", "🧖🏿‍♂️"),
  ("man_in_steamy_room_light_skin_tone", "🧖🏻‍♂️"),
  ("man_in_steamy_room_medium-dark_skin_tone", "🧖🏾‍♂️"),
  ("man_in_steamy_room_medium-light_skin_tone", "🧖🏼‍♂️"),
  ("man_in_steamy_room_medium_skin_tone", "🧖🏽‍♂️"),
  ("man_in_suit_levitating_dark_skin_tone", "🕴🏿"),
  ("man_in_suit_levitating_light_skin_tone", "🕴🏻"),
  ("man_in_suit_levitating_medium-dark_skin_tone", "🕴🏾"),
  ("man_in_suit_levitating_medium-light_skin_tone", "🕴🏼"),
  ("man_in_suit_levitating_medium_skin_tone", "🕴🏽"),
  ("man_in_tuxedo_dark_skin_tone", "🤵🏿"),
  ("man_in_tuxedo_light_skin_tone", "🤵🏻"),
  ("man_in_tuxedo_medium-dark_skin_tone", "🤵🏾"),
  ("man_in_tuxedo_medium-light_skin_tone", "🤵🏼"),
  ("man_in_tuxedo_medium_skin_tone", "🤵🏽"),
  ("man_judge_dark_skin_tone", "👨🏿‍⚖️"),
  ("man_judge_light_skin_tone", "👨🏻‍⚖️"),
  ("man_judge_medium-dark_skin_tone", "👨🏾‍⚖️"),
  ("man_judge_medium-light_skin_tone", "👨🏼‍⚖️"),
  ("man_judge_medium_skin_tone", "👨🏽‍⚖️"),
  ("man_juggling_dark_skin_tone", "🤹🏿‍♂️"),
  ("man_juggling_light_skin_tone", "🤹🏻‍♂️"),
  ("man_juggling_medium-dark_skin_tone", "🤹🏾‍♂️"),
  ("man_juggling_medium-light_skin_tone", "🤹🏼‍♂️"),
  ("man_juggling_medium_skin_tone", "🤹🏽‍♂️"),
  ("man_lifting_weights_dark_skin_tone", "🏋🏿‍♂️"),
  ("man_lifting_weights_light_skin_tone", "🏋🏻‍♂️"),
  ("man_lifting_weights_medium-dark_skin_tone", "🏋🏾‍♂️"),
  ("man_lifting_weights_medium-light_skin_tone", "🏋🏼‍♂️"),
  ("man_lifting_weights_medium_skin_tone", "🏋🏽‍♂️"),
  ("man_light_skin_tone", "👨🏻"), ("man_mage_dark_skin_tone", "🧙🏿‍♂️"),
  ("man_mage_light_skin_tone", "🧙🏻‍♂️"),
  ("man_mage_medium-dark_skin_tone", "🧙🏾‍♂️"),
  ("man_mage_medium-light_skin_tone", "🧙🏼‍♂️"),
  ("man_mage_medium_skin_tone", "🧙🏽‍♂️"),
  ("man_mechanic_dark_skin_tone", "👨🏿‍🔧"),
  ("man_mechanic_light_skin_tone", "👨🏻‍🔧"),
  ("man_mechanic_medium-dark_skin_tone", "👨🏾‍🔧"),
  ("man_mechanic_medium-light_skin_tone", "👨🏼‍🔧"),
  ("man_mechanic_medium_skin_tone", "👨🏽‍🔧"),
  ("man_medium-dark_skin_tone", "👨🏾"), ("man_medium-light_skin_tone", "👨🏼"),
  ("man_medium_skin_tone", "👨🏽"),
  ("man_mountain_biking_dark_skin_tone", "🚵🏿‍♂️"),
  ("man_mountain_biking_light_skin_tone", "🚵🏻‍♂️"),
  ("man_mountain_biking_medium-dark_skin_tone", "🚵🏾‍♂️"),
  ("man_mountain_biking_medium-light_skin_tone", "🚵🏼‍♂️"),
  ("man_mountain_biking_medium_skin_tone", "🚵🏽‍♂️"),
  ("man_office_worker_dark_skin_tone", "👨🏿‍💼"),
  ("man_office_worker_light_skin_tone", "👨🏻‍💼"),
  ("man_office_worker_medium-dark_skin_tone", "👨🏾‍💼"),
  ("man_office_worker_medium-light_skin_tone", "👨🏼‍💼"),
  ("man_office_worker_medium_skin_tone", "👨🏽‍💼"),
  ("man_pilot_dark_skin_tone", "👨🏿‍✈️"),
  ("man_pilot_light_skin_tone", "👨🏻‍✈️"),
  ("man_pilot_medium-dark_skin_tone", "👨🏾‍✈️"),
  ("man_pilot_medium-light_skin_tone", "👨🏼‍✈️"),
  ("man_pilot_medium_skin_tone", "👨🏽‍✈️"),
  ("man_playing_handball_dark_skin_tone", "🤾🏿‍♂️"),
  ("man_playing_handball_light_skin_tone", "🤾🏻‍♂️"),
  ("man_playing_handball_medium-dark_skin_tone", "🤾🏾‍♂️"),
  ("man_playing_handball_medium-light_skin_tone", "🤾🏼‍♂️"),
  ("man_playing_handball_medium_skin_tone", "🤾🏽‍♂️"),
  ("man_playing_water_polo_dark_skin_tone", "🤽🏿‍♂️"),
  ("man_playing_water_polo_light_skin_tone", "🤽🏻‍♂️"),
  ("man_playing_water_polo_medium-dark_skin_tone", "🤽🏾‍♂️"),
  ("man_playing_water_polo_medium-light_skin_tone", "🤽🏼‍♂️"),
  ("man_playing_water_polo_medium_skin_tone", "🤽🏽‍♂️"),
  ("man_police_officer_dark_skin_tone", "👮🏿‍♂️"),
  ("man_police_officer_light_skin_tone", "👮🏻‍♂️"),
  ("man_police_officer_medium-dark_skin_tone", "👮🏾‍♂️"),
  ("man_police_officer_medium-light_skin_tone", "👮🏼‍♂️"),
  ("man_police_officer_medium_skin_tone", "👮🏽‍♂️"),
  ("man_pouting_dark_skin_tone", "🙎🏿‍♂️"),
  ("man_pouting_light_skin_tone", "🙎🏻‍♂️"),
  ("man_pouting_medium-dark_skin_tone", "🙎🏾‍♂️"),
  ("man_pouting_medium-light_skin_tone", "🙎🏼‍♂️"),
  ("man_pouting_medium_skin_tone", "🙎🏽‍♂️"),
  ("man_raising_hand_dark_skin_tone", "🙋🏿‍♂️"),
  ("man_raising_hand_light_skin_tone", "🙋🏻‍♂️"),
  ("man_raising_hand_medium-dark_skin_tone", "🙋🏾‍♂️"),
  ("man_raising_hand_medium-light_skin_tone", "🙋🏼‍♂️"),
  ("man_raising_hand_medium_skin_tone", "🙋🏽‍♂️"),
  ("man_rowing_boat_dark_skin_tone", "🚣🏿‍♂️"),
  ("man_rowing_boat_light_skin_tone", "🚣🏻‍♂️"),
  ("man_rowing_boat_medium-dark_skin_tone", "🚣🏾‍♂️"),
  ("man_rowing_boat_medium-light_skin_tone", "🚣🏼‍♂️"),
  ("man_rowing_boat_medium_skin_tone", "🚣🏽‍♂️"),
  ("man_running_dark_skin_tone", "🏃🏿‍♂️"),
  ("man_running_light_skin_tone", "🏃🏻‍♂️"),
  ("man_running_medium-dark_skin_tone", "🏃🏾‍♂️"),
  ("man_running_medium-light_skin_tone", "🏃🏼‍♂️"),
  ("man_running_medium_skin_tone", "🏃🏽‍♂️"),
  ("man_scientist_dark_skin_tone", "👨🏿‍🔬"),
  ("man_scientist_light_skin_tone", "👨🏻‍🔬"),
  ("man_scientist_medium-dark_skin_tone", "👨🏾‍🔬"),
  ("man_scientist_medium-light_skin_tone", "👨🏼‍🔬"),
  ("man_scientist_medium_skin_tone", "👨🏽‍🔬"),
  ("man_shrugging_dark_skin_tone", "🤷🏿‍♂️"),
  ("man_shrugging_light_skin_tone", "🤷🏻‍♂️"),
  ("man_shrugging_medium-dark_skin_tone", "🤷🏾‍♂️"),
  ("man_shrugging_medium-light_skin_tone", "🤷🏼‍♂️"),
  ("man_shrugging_medium_skin_tone", "🤷🏽‍♂️"),
  ("man_singer_dark_skin_tone", "👨🏿‍🎤"),
  ("man_singer_light_skin_tone", "👨🏻‍🎤"),
  ("man_singer_medium-dark_skin_tone", "👨🏾‍🎤"),
  ("man_singer_medium-light_skin_tone", "👨🏼‍🎤"),
  ("man_singer_medium_skin_tone", "👨🏽‍🎤"),
  ("man_student_dark_skin_tone", "👨🏿‍🎓"),
  ("man_student_light_skin_tone", "👨🏻‍🎓"),
  ("man_student_medium-dark_skin_tone", "👨🏾‍🎓"),
  ("man_student_medium-light_skin_tone", "👨🏼‍🎓"),
  ("man_student_medium_skin_tone", "👨🏽‍🎓"),
  ("man_surfing_dark_skin_tone", "🏄🏿‍♂️"),
  ("man_surfing_light_skin_tone", "🏄🏻‍♂️"),
  ("man_surfing_medium-dark_skin_tone", "🏄🏾‍♂️"),
  ("man_surfing_medium-light_skin_tone", "🏄🏼‍♂️"),
  ("man_surfing_medium_skin_tone", "🏄🏽‍♂️"),
  ("man_swimming_dark_skin_tone", "🏊🏿‍♂️"),
  ("man_swimming_light_skin_tone", "🏊🏻‍♂️"),
  ("man_swimming_medium-dark_skin_tone", "🏊🏾‍♂️"),
  ("man_swimming_medium-light_skin_tone", "🏊🏼‍♂️"),
  ("man_swimming_medium_skin_tone", "🏊🏽‍♂️"),
  ("man_teacher_dark_skin_tone", "👨🏿‍🏫"),
  ("man_teacher_light_skin_tone", "👨🏻‍🏫"),
  ("man_teacher_medium-dark_skin_tone", "👨🏾‍🏫"),
  ("man_teacher_medium-light_skin_tone", "👨🏼‍🏫"),
  ("man_teacher_medium_skin_tone", "👨🏽‍🏫"),
  ("man_technologist_dark_skin_tone", "👨🏿‍💻"),
  ("man_technologist_light_skin_tone", "👨🏻‍💻"),
  ("man_technologist_medium-dark_skin_tone", "👨🏾‍💻"),
  ("man_technologist_medium-light_skin_tone", "👨🏼‍💻"),
  ("man_technologist_medium_skin_tone", "👨🏽‍💻"),
  ("man_tipping_hand_dark_skin_tone", "💁🏿‍♂️"),
  ("man_tipping_hand_light_skin_tone", "💁🏻‍♂️"),
  ("man_tipping_hand_medium-dark_skin_tone", "💁🏾‍♂️"),
  ("man_tipping_hand_medium-light_skin_tone", "💁🏼‍♂️"),
  ("man_tipping_hand_medium_skin_tone", "💁🏽‍♂️"),
  ("man_vampire_dark_skin_tone", "🧛🏿‍♂️"),
  ("man_vampire_light_skin_tone", "🧛🏻‍♂️"),
  ("man_vampire_medium-dark_skin_tone", "🧛🏾‍♂️"),
  ("man_vampire_medium-light_skin_tone", "🧛🏼‍♂️"),
  ("man_vampire_medium_skin_tone", "🧛🏽‍♂️"),
  ("man_walking_dark_skin_tone", "🚶🏿‍♂️"),
  ("man_walking_light_skin_tone", "🚶🏻‍♂️"),
  ("man_walking_medium-dark_skin_tone", "🚶🏾‍♂️"),
  ("man_walking_medium-light_skin_tone", "🚶🏼‍♂️"),
  ("man_walking_medium_skin_tone", "🚶🏽‍♂️"),
  ("man_wearing_turban_dark_skin_tone", "👳🏿‍♂️"),
  ("man_wearing_turban_light_skin_tone", "👳🏻‍♂️"),
  ("man_wearing_turban_medium-dark_skin_tone", "👳🏾‍♂️"),
  ("man_wearing_turban_medium-light_skin_tone", "👳🏼‍♂️"),
  ("man_wearing_turban_medium_skin_tone", "👳🏽‍♂️"),
  ("man_with_chinese_cap_dark_skin_tone", "👲🏿"),
  ("man_with_chinese_cap_light_skin_tone", "👲🏻"),
  ("man_with_chinese_cap_medium-dark_skin_tone", "👲🏾"),
  ("man_with_chinese_cap_medium-light_skin_tone", "👲🏼"),
  ("man_with_chinese_cap_medium_skin_tone", "👲🏽"),
  ("medium_dark_skin_tone", "🏾"), ("medium_light_skin_tone", "🏼"),
  ("medium_skin_tone", "🏽"), ("mermaid_dark_skin_tone", "🧜🏿‍♀️"),
  ("mermaid_light_skin_tone", "🧜🏻‍♀️"),
  ("mermaid_medium-dark_skin_tone", "🧜🏾‍♀️"),
  ("mermaid_medium-light_skin_tone", "🧜🏼‍♀️"),
  ("mermaid_medium_skin_tone", "🧜🏽‍♀️"), ("merman_dark_skin_tone", "🧜🏿‍♂️"),
  ("merman_light_skin_tone", "🧜🏻‍♂️"),
  ("merman_medium-dark_skin_tone", "🧜🏾‍♂️"),
  ("merman_medium-light_skin_tone", "🧜🏼‍♂️"),
  ("merman_medium_skin_tone", "🧜🏽‍♂️"), ("merperson_dark_skin_tone", "🧜🏿"),
  ("merperson_light_skin_tone", "🧜🏻"),
  ("merperson_medium-dark_skin_tone", "🧜🏾"),
  ("merperson_medium-light_skin_tone", "🧜🏼"),
  ("merperson_medium_skin_tone", "🧜🏽"), ("middle_finger_dark_skin_tone", "🖕🏿"),
  ("middle_finger_light_skin_tone", "🖕🏻"),
  ("middle_finger_medium-dark_skin_tone", "🖕🏾"),
  ("middle_finger_medium-light_skin_tone", "🖕🏼"),
  ("middle_finger_medium_skin_tone", "🖕🏽"),
  ("mrs._claus_dark_skin_tone", "🤶🏿"), ("mrs._claus_light_skin_tone", "🤶🏻"),
  ("mrs._claus_medium-dark_skin_tone", "🤶🏾"),
  ("mrs._claus_medium-light_skin_tone", "🤶🏼"),
  ("mrs._claus_medium_skin_tone", "🤶🏽")]

def tonedToZ : List (String × String) := [
  ("nail_polish_dark_skin_tone", "💅🏿"), ("nail_polish_light_skin_tone", "💅🏻"),
  ("nail_polish_medium-dark_skin_tone", "💅🏾"),
  ("nail_polish_medium-light_skin_tone", "💅🏼"),
  ("nail_polish_medium_skin_tone", "💅🏽"), ("nose_dark_skin_tone", "👃🏿"),
  ("nose_light_skin_tone", "👃🏻"), ("nose_medium-dark_skin_tone", "👃🏾"),
  ("nose_medium-light_skin_tone", "👃🏼"), ("nose_medium_skin_tone", "👃🏽"),
  ("ok_hand_dark_skin_tone", "👌🏿"), ("ok_hand_light_skin_tone", "👌🏻"),
  ("ok_hand_medium-dark_skin_tone", "👌🏾"),
  ("ok_hand_medium-light_skin_tone", "👌🏼"), ("ok_hand_medium_skin_tone", "👌🏽"),
  ("old_man_dark_skin_tone", "👴🏿"), ("old_man_light_skin_tone", "👴🏻"),
  ("old_man_medium-dark_skin_tone", "👴🏾"),
  ("old_man_medium-light_skin_tone", "👴🏼"), ("old_man_medium_skin_tone", "👴🏽"),
  ("old_woman_dark_skin_tone", "👵🏿"), ("old_woman_light_skin_tone", "👵🏻"),
  ("old_woman_medium-dark_skin_tone", "👵🏾"),
  ("old_woman_medium-light_skin_tone", "👵🏼"),
  ("old_woman_medium_skin_tone", "👵🏽"), ("older_adult_dark_skin_tone", "🧓🏿"),
  ("older_adult_light_skin_tone", "🧓🏻"),
  ("older_adult_medium-dark_skin_tone", "🧓🏾"),
  ("older_adult_medium-light_skin_tone", "🧓🏼"),
  ("older_adult_medium_skin_tone", "🧓🏽"),
  ("oncoming_fist_dark_skin_tone", "👊🏿"),
  ("oncoming_fist_light_skin_tone", "👊🏻"),
  ("oncoming_fist_medium-dark_skin_tone", "👊🏾"),
  ("oncoming_fist_medium-light_skin_tone", "👊🏼"),
  ("oncoming_fist_medium_skin_tone", "👊🏽"),
  ("open_hands_dark_skin_tone", "👐🏿"), ("open_hands_light_skin_tone", "👐🏻"),
  ("open_hands_medium-dark_skin_tone", "👐🏾"),
  ("open_hands_medium-light_skin_tone", "👐🏼"),
  ("open_hands_medium_skin_tone", "👐🏽"),
  ("palms_up_together_dark_skin_tone", "🤲🏿"),
  ("palms_up_together_light_skin_tone", "🤲🏻"),
  ("palms_up_together_medium-dark_skin_tone", "🤲🏾"),
  ("palms_up_together_medium-light_skin_tone", "🤲🏼"),
  ("palms_up_together_medium_skin_tone", "🤲🏽"),
  ("person_biking_dark_skin_tone", "🚴🏿"),
  ("person_biking_light_skin_tone", "🚴🏻"),
  ("person_biking_medium-dark_skin_tone", "🚴🏾"),
  ("person_biking_medium-light_skin_tone", "🚴🏼"),
  ("person_biking_medium_skin_tone", "🚴🏽"),
  ("person_bouncing_ball_dark_skin_tone", "⛹🏿"),
  ("person_bouncing_ball_light_skin_tone", "⛹🏻"),
  ("person_bouncing_ball_medium-dark_skin_tone", "⛹🏾"),
  ("person_bouncing_ball_medium-light_skin_tone", "⛹🏼"),
  ("person_bouncing_ball_medium_skin_tone", "⛹🏽"),
  ("person_bowing_dark_skin_tone", "🙇🏿"),
  ("person_bowing_light_skin_tone", "🙇🏻"),
  ("person_bowing_medium-dark_skin_tone", "🙇🏾"),
  ("person_bowing_medium-light_skin_tone", "🙇🏼"),
  ("person_bowing_medium_skin_tone", "🙇🏽"),
  ("person_cartwheeling_dark_skin_tone", "🤸🏿"),
  ("person_cartwheeling_light_skin_tone", "🤸🏻"),
  ("person_cartwheeling_medium-dark_skin_tone", "🤸🏾"),
  ("person_cartwheeling_medium-light_skin_tone", "🤸🏼"),
  ("person_cartwheeling_medium_skin_tone", "🤸🏽"),
  ("person_climbing_dark_skin_tone", "🧗🏿"),
  ("person_climbing_light_skin_tone", "🧗🏻"),
  ("person_climbing_medium-dark_skin_tone", "🧗🏾"),
  ("person_climbing_medium-light_skin_tone", "🧗🏼"),
  ("person_climbing_medium_skin_tone", "🧗🏽"),
  ("person_facepalming_dark_skin_tone", "🤦🏿"),
  ("person_facepalming_light_skin_tone", "🤦🏻"),
  ("person_facepalming_medium-dark_skin_tone", "🤦🏾"),
  ("person_facepalming_medium-light_skin_tone", "🤦🏼"),
  ("person_facepalming_medium_skin_tone", "🤦🏽"),
  ("person_frowning_dark_skin_tone", "🙍🏿"),
  ("person_frowning_light_skin_tone", "🙍🏻"),
  ("person_frowning_medium-dark_skin_tone", "🙍🏾"),
  ("person_frowning_medium-light_skin_tone", "🙍🏼"),
  ("person_frowning_medium_skin_tone", "🙍🏽"),
  ("person_gesturing_no_dark_skin_tone", "🙅🏿"),
  ("person_gesturing_no_light_skin_tone", "🙅🏻"),
  ("person_gesturing_no_medium-dark_skin_tone", "🙅🏾"),
  ("person_gesturing_no_medium-light_skin_tone", "🙅🏼"),
  ("person_gesturing_no_medium_skin_tone", "🙅🏽"),
  ("person_gesturing_ok_dark_skin_tone", "🙆🏿"),
  ("person_gesturing_ok_light_skin_tone", "🙆🏻"),
  ("person_gesturing_ok_medium-dark_skin_tone", "🙆🏾"),
  ("person_gesturing_ok_medium-light_skin_tone", "🙆🏼"),
  ("person_gesturing_ok_medium_skin_tone", "🙆🏽"),
  ("person_getting_haircut_dark_skin_tone", "💇🏿"),
  ("person_getting_haircut_light_skin_tone", "💇🏻"),
  ("person_getting_haircut_medium-dark_skin_tone", "💇🏾"),
  ("person_getting_haircut_medium-light_skin_tone", "💇🏼"),
  ("person_getting_haircut_medium_skin_tone", "💇🏽"),
  ("person_getting_massage_dark_skin_tone", "💆🏿"),
  ("person_getting_massage_light_skin_tone", "💆🏻"),
  ("person_getting_massage_medium-dark_skin_tone", "💆🏾"),
  ("person_getting_massage_medium-light_skin_tone", "💆🏼"),
  ("person_getting_massage_medium_skin_tone", "💆🏽"),
  ("person_golfing_dark_skin_tone", "🏌🏿"),
  ("person_golfing_light_skin_tone", "🏌🏻"),
  ("person_golfing_medium-dark_skin_tone", "🏌🏾"),
  ("person_golfing_medium-light_skin_tone", "🏌🏼"),
  ("person_golfing_medium_skin_tone", "🏌🏽"),
  ("person_in_bed_dark_skin_tone", "🛌🏿"),
  ("person_in_bed_light_skin_tone", "🛌🏻"),
  ("person_in_bed_medium-dark_skin_tone", "🛌🏾"),
  ("person_in_bed_medium-light_skin_tone", "🛌🏼"),
  ("person_in_bed_medium_skin_tone", "🛌🏽"),
  ("person_in_lotus_position_dark_skin_tone", "🧘🏿"),
  ("person_in_lotus_position_light_skin_tone", "🧘🏻"),
  ("person_in_lotus_position_medium-dark_skin_tone", "🧘🏾"),
  ("person_in_lotus_position_medium-light_skin_tone", "🧘🏼"),
  ("person_in_lotus_position_medium_skin_tone", "🧘🏽"),
  ("person_in_steamy_room_dark_skin_tone", "🧖🏿"),
  ("person_in_steamy_room_light_skin_tone", "🧖🏻"),
  ("person_in_steamy_room_medium-dark_skin_tone", "🧖🏾"),
  ("person_in_steamy_room_medium-light_skin_tone", "🧖🏼"),
  ("person_in_steamy_room_medium_skin_tone", "🧖🏽"),
  ("person_juggling_dark_skin_tone", "🤹🏿"),
  ("person_juggling_light_skin_tone", "🤹🏻"),
  ("person_juggling_medium-dark_skin_tone", "🤹🏾"),
  ("person_juggling_medium-light_skin_tone", "🤹🏼"),
  ("person_juggling_medium_skin_tone", "🤹🏽"),
  ("person_lifting_weights_dark_skin_tone", "🏋🏿"),
  ("person_lifting_weights_light_skin_tone", "🏋🏻"),
  ("person_lifting_weights_medium-dark_skin_tone", "🏋🏾"),
  ("person_lifting_weights_medium-light_skin_tone", "🏋🏼"),
  ("person_lifting_weights_medium_skin_tone", "🏋🏽"),
  ("person_mountain_biking_dark_skin_tone", "🚵🏿"),
  ("person_mountain_biking_light_skin_tone", "🚵🏻"),
  ("person_mountain_biking_medium-dark_skin_tone", "🚵🏾"),
  ("person_mountain_biking_medium-light_skin_tone", "🚵🏼"),
  ("person_mountain_biking_medium_skin_tone", "🚵🏽"),
  ("person_playing_handball_dark_skin_tone", "🤾🏿"),
  ("person_playing_handball_light_skin_tone", "🤾🏻"),
  ("person_playing_handball_medium-dark_skin_tone", "🤾🏾"),
  ("person_playing_handball_medium-light_skin_tone", "🤾🏼"),
  ("person_playing_handball_medium_skin_tone", "🤾🏽"),
  ("person_playing_water_polo_dark_skin_tone", "🤽🏿"),
  ("person_playing_water_polo_light_skin_tone", "🤽🏻"),
  ("person_playing_water_polo_medium-dark_skin_tone", "🤽🏾"),
  ("person_playing_water_polo_medium-light_skin_tone", "🤽🏼"),
  ("person_playing_water_polo_medium_skin_tone", "🤽🏽"),
  ("person_pouting_dark_skin_tone", "🙎🏿"),
  ("person_pouting_light_skin_tone", "🙎🏻"),
  ("person_pouting_medium-dark_skin_tone", "🙎🏾"),
  ("person_pouting_medium-light_skin_tone", "🙎🏼"),
  ("person_pouting_medium_skin_tone", "🙎🏽"),
  ("person_raising_hand_dark_skin_tone", "🙋🏿"),
  ("person_raising_hand_light_skin_tone", "🙋🏻"),
  ("person_raising_hand_medium-dark_skin_tone", "🙋🏾"),
  ("person_raising_hand_medium-light_skin_tone", "🙋🏼"),
  ("person_raising_hand_medium_skin_tone", "🙋🏽"),
  ("person_rowing_boat_dark_skin_tone", "🚣🏿"),
  ("person_rowing_boat_light_skin_tone", "🚣🏻"),
  ("person_rowing_boat_medium-dark_skin_tone", "🚣🏾"),
  ("person_rowing_boat_medium-light_skin_tone", "🚣🏼"),
  ("person_rowing_boat_medium_skin_tone", "🚣🏽"),
  ("person_running_dark_skin_tone", "🏃🏿"),
  ("person_running_light_skin_tone", "🏃🏻"),
  ("person_running_medium-dark_skin_tone", "🏃🏾"),
  ("person_running_medium-light_skin_tone", "🏃🏼"),
  ("person_running_medium_skin_tone", "🏃🏽"),
  ("person_shrugging_dark_skin_tone", "🤷🏿"),
  ("person_shrugging_light_skin_tone", "🤷🏻"),
  ("person_shrugging_medium-dark_skin_tone", "🤷🏾"),
  ("person_shrugging_medium-light_skin_tone", "🤷🏼"),
  ("person_shrugging_medium_skin_tone", "🤷🏽"),
  ("person_surfing_dark_skin_tone", "🏄🏿"),
  ("person_surfing_light_skin_tone", "🏄🏻"),
  ("person_surfing_medium-dark_skin_tone", "🏄🏾"),
  ("person_surfing_medium-light_skin_tone", "🏄🏼"),
  ("person_surfing_medium_skin_tone", "🏄🏽"),
  ("person_swimming_dark_skin_tone", "🏊🏿"),
  ("person_swimming_light_skin_tone", "🏊🏻"),
  ("person_swimming_medium-dark_skin_tone", "🏊🏾"),
  ("person_swimming_medium-light_skin_tone", "🏊🏼"),
  ("person_swimming_medium_skin_tone", "🏊🏽"),
  ("person_taking_bath_dark_skin_tone", "🛀🏿"),
  ("person_taking_bath_light_skin_tone", "🛀🏻"),
  ("person_taking_bath_medium-dark_skin_tone", "🛀🏾"),
  ("person_taking_bath_medium-light_skin_tone", "🛀🏼"),
  ("person_taking_bath_medium_skin_tone", "🛀🏽"),
  ("person_tipping_hand_dark_skin_tone", "💁🏿"),
  ("person_tipping_hand_light_skin_tone", "💁🏻"),
  ("person_tipping_hand_medium-dark_skin_tone", "💁🏾"),
  ("person_tipping_hand_medium-light_skin_tone", "💁🏼"),
  ("person_tipping_hand_medium_skin_tone", "💁🏽"),
  ("person_walking_dark_skin_tone", "🚶🏿"),
  ("person_walking_light_skin_tone", "🚶🏻"),
  ("person_walking_medium-dark_skin_tone", "🚶🏾"),
  ("person_walking_medium-light_skin_tone", "🚶🏼"),
  ("person_walking_medium_skin_tone", "🚶🏽"),
  ("person_wearing_turban_dark_skin_tone", "👳🏿"),
  ("person_wearing_turban_light_skin_tone", "👳🏻"),
  ("person_wearing_turban_medium-dark_skin_tone", "👳🏾"),
  ("person_wearing_turban_medium-light_skin_tone", "👳🏼"),
  ("person_wearing_turban_medium_skin_tone", "👳🏽"),
  ("police_officer_dark_skin_tone", "👮🏿"),
  ("police_officer_light_skin_tone", "👮🏻"),
  ("police_officer_medium-dark_skin_tone", "👮🏾"),
  ("police_officer_medium-light_skin_tone", "👮🏼"),
  ("police_officer_medium_skin_tone", "👮🏽"),
  ("pregnant_woman_dark_skin_tone", "🤰🏿"),
  ("pregnant_woman_light_skin_tone", "🤰🏻"),
  ("pregnant_woman_medium-dark_skin_tone", "🤰🏾"),
  ("pregnant_woman_medium-light_skin_tone", "🤰🏼"),
  ("pregnant_woman_medium_skin_tone", "🤰🏽"), ("prince_dark_skin_tone", "🤴🏿"),
  ("prince_light_skin_tone", "🤴🏻"), ("prince_medium-dark_skin_tone", "🤴🏾"),
  ("prince_medium-light_skin_tone", "🤴🏼"), ("prince_medium_skin_tone", "🤴🏽"),
  ("princess_dark_skin_tone", "👸🏿"), ("princess_light_skin_tone", "👸🏻"),
  ("princess_medium-dark_skin_tone", "👸🏾"),
  ("princess_medium-light_skin_tone", "👸🏼"),
  ("princess_medium_skin_tone", "👸🏽"),
  ("raised_back_of_hand_dark_skin_tone", "🤚🏿"),
  ("raised_back_of_hand_light_skin_tone", "🤚🏻"),
  ("raised_back_of_hand_medium-dark_skin_tone", "🤚🏾"),
  ("raised_back_of_hand_medium-light_skin_tone", "🤚🏼"),
  ("raised_back_of_hand_medium_skin_tone", "🤚🏽"),
  ("raised_fist_dark_skin_tone", "✊🏿"), ("raised_fist_light_skin_tone", "✊🏻"),
  ("raised_fist_medium-dark_skin_tone", "✊🏾"),
  ("raised_fist_medium-light_skin_tone", "✊🏼"),
  ("raised_fist_medium_skin_tone", "✊🏽"), ("raised_hand_dark_skin_tone", "✋🏿"),
  ("raised_hand_light_skin_tone", "✋🏻"),
  ("raised_hand_medium-dark_skin_tone", "✋🏾"),
  ("raised_hand_medium-light_skin_tone", "✋🏼"),
  ("raised_hand_medium_skin_tone", "✋🏽"),
  ("raising_hands_dark_skin_tone", "🙌🏿"),
  ("raising_hands_light_skin_tone", "🙌🏻"),
  ("raising_hands_medium-dark_skin_tone", "🙌🏾"),
  ("raising_hands_medium-light_skin_tone", "🙌🏼"),
  ("raising_hands_medium_skin_tone", "🙌🏽"),
  ("right-facing_fist_dark_skin_tone", "🤜🏿"),
  ("right-facing_fist_light_skin_tone", "🤜🏻"),
  ("right-facing_fist_medium-dark_skin_tone", "🤜🏾"),
  ("right-facing_fist_medium-light_skin_tone", "🤜🏼"),
  ("right-facing_fist_medium_skin_tone", "🤜🏽"),
  ("santa_claus_dark_skin_tone", "🎅🏿"), ("santa_claus_light_skin_tone", "🎅🏻"),
  ("santa_claus_medium-dark_skin_tone", "🎅🏾"),
  ("santa_claus_medium-light_skin_tone", "🎅🏼"),
  ("santa_claus_medium_skin_tone", "🎅🏽"), ("selfie_dark_skin_tone", "🤳🏿"),
  ("selfie_light_skin_tone", "🤳🏻"), ("selfie_medium-dark_skin_tone", "🤳🏾"),
  ("selfie_medium-light_skin_tone", "🤳🏼"), ("selfie_medium_skin_tone", "🤳🏽"),
  ("sign_of_the_horns_dark_skin_tone", "🤘🏿"),
  ("sign_of_the_horns_light_skin_tone", "🤘🏻"),
  ("sign_of_the_horns_medium-dark_skin_tone", "🤘🏾"),
  ("sign_of_the_horns_medium-light_skin_tone", "🤘🏼"),
  ("sign_of_the_horns_medium_skin_tone", "🤘🏽"),
  ("snowboarder_dark_skin_tone", "🏂🏿"), ("snowboarder_light_skin_tone", "🏂🏻"),
  ("snowboarder_medium-dark_skin_tone", "🏂🏾"),
  ("snowboarder_medium-light_skin_tone", "🏂🏼"),
  ("snowboarder_medium_skin_tone", "🏂🏽"), ("thumbs_down_dark_skin_tone", "👎🏿"),
  ("thumbs_down_light_skin_tone", "👎🏻"),
  ("thumbs_down_medium-dark_skin_tone", "👎🏾"),
  ("thumbs_down_medium-light_skin_tone", "👎🏼"),
  ("thumbs_down_medium_skin_tone", "👎🏽"), ("thumbs_up_dark_skin_tone", "👍🏿"),
  ("thumbs_up_light_skin_tone", "👍🏻"),
  ("thumbs_up_medium-dark_skin_tone", "👍🏾"),
  ("thumbs_up_medium-light_skin_tone", "👍🏼"),
  ("thumbs_up_medium_skin_tone", "👍🏽"), ("vampire_dark_skin_tone", "🧛🏿"),
  ("vampire_light_skin_tone", "🧛🏻"), ("vampire_medium-dark_skin_tone", "🧛🏾"),
  ("vampire_medium-light_skin_tone", "🧛🏼"), ("vampire_medium_skin_tone", "🧛🏽"),
  ("victory_hand_dark_skin_tone", "✌🏿"),
  ("victory_hand_light_skin_tone", "✌🏻"),
  ("victory_hand_medium-dark_skin_tone", "✌🏾"),
  ("victory_hand_medium-light_skin_tone", "✌🏼"),
  ("victory_hand_medium_skin_tone", "✌🏽"),
  ("vulcan_salute_dark_skin_tone", "🖖🏿"),
  ("vulcan_salute_light_skin_tone", "🖖🏻"),
  ("vulcan_salute_medium-dark_skin_tone", "🖖🏾"),
  ("vulcan_salute_medium-light_skin_tone", "🖖🏼"),
  ("vulcan_salute_medium_skin_tone", "🖖🏽"),
  ("waving_hand_dark_skin_tone", "👋🏿"), ("waving_hand_light_skin_tone", "👋🏻"),
  ("waving_hand_medium-dark_skin_tone", "👋🏾"),
  ("waving_hand_medium-light_skin_tone", "👋🏼"),
  ("waving_hand_medium_skin_tone", "👋🏽"),
  ("woman_artist_dark_skin_tone", "👩🏿‍🎨"),
  ("woman_artist_light_skin_tone", "👩🏻‍🎨"),
  ("woman_artist_medium-dark_skin_tone", "👩🏾‍🎨"),
  ("woman_artist_medium-light_skin_tone", "👩🏼‍🎨"),
  ("woman_artist_medium_skin_tone", "👩🏽‍🎨"),
  ("woman_astronaut_dark_skin_tone", "👩🏿‍🚀"),
  ("woman_astronaut_light_skin_tone", "👩🏻‍🚀"),
  ("woman_astronaut_medium-dark_skin_tone", "👩🏾‍🚀"),
  ("woman_astronaut_medium-light_skin_tone", "👩🏼‍🚀"),
  ("woman_astronaut_medium_skin_tone", "👩🏽‍🚀"),
  ("woman_biking_dark_skin_tone", "🚴🏿‍♀️"),
  ("woman_biking_light_skin_tone", "🚴🏻‍♀️"),
  ("woman_biking_medium-dark_skin_tone", "🚴🏾‍♀️"),
  ("woman_biking_medium-light_skin_tone", "🚴🏼‍♀️"),
  ("woman_biking_medium_skin_tone", "🚴🏽‍♀️"),
  ("woman_bouncing_ball_dark_skin_tone", "⛹🏿‍♀️"),
  ("woman_bouncing_ball_light_skin_tone", "⛹🏻‍♀️"),
  ("woman_bouncing_ball_medium-dark_skin_tone", "⛹🏾‍♀️"),
  ("woman_bouncing_ball_medium-light_skin_tone", "⛹🏼‍♀️"),
  ("woman_bouncing_ball_medium_skin_tone", "⛹🏽‍♀️"),
  ("woman_bowing_dark_skin_tone", "🙇🏿‍♀️"),
  ("woman_bowing_light_skin_tone", "🙇🏻‍♀️"),
  ("woman_bowing_medium-dark_skin_tone", "🙇🏾‍♀️"),
  ("woman_bowing_medium-light_skin_tone", "🙇🏼‍♀️"),
  ("woman_bowing_medium_skin_tone", "🙇🏽‍♀️"),
  ("woman_cartwheeling_dark_skin_tone", "🤸🏿‍♀️"),
  ("woman_cartwheeling_light_skin_tone", "🤸🏻‍♀️"),
  ("woman_cartwheeling_medium-dark_skin_tone", "🤸🏾‍♀️"),
  ("woman_cartwheeling_medium-light_skin_tone", "🤸🏼‍♀️"),
  ("woman_cartwheeling_medium_skin_tone", "🤸🏽‍♀️"),
  ("woman_climbing_dark_skin_tone", "🧗🏿‍♀️"),
  ("woman_climbing_light_skin_tone", "🧗🏻‍♀️"),
  ("woman_climbing_medium-dark_skin_tone", "🧗🏾‍♀️"),
  ("woman_climbing_medium-light_skin_tone", "🧗🏼‍♀️"),
  ("woman_climbing_medium_skin_tone", "🧗🏽‍♀️"),
  ("woman_construction_worker_dark_skin_tone", "👷🏿‍♀️"),
  ("woman_construction_worker_light_skin_tone", "👷🏻‍♀️"),
  ("woman_construction_worker_medium-dark_skin_tone", "👷🏾‍♀️"),
  ("woman_construction_worker_medium-light_skin_tone", "👷🏼‍♀️"),
  ("woman_construction_worker_medium_skin_tone", "👷🏽‍♀️"),
  ("woman_cook_dark_skin_tone", "👩🏿‍🍳"),
  ("woman_cook_light_skin_tone", "👩🏻‍🍳"),
  ("woman_cook_medium-dark_skin_tone", "👩🏾‍🍳"),
  ("woman_cook_medium-light_skin_tone", "👩🏼‍🍳"),
  ("woman_cook_medium_skin_tone", "👩🏽‍🍳"),
  ("woman_dancing_dark_skin_tone", "💃🏿"),
  ("woman_dancing_light_skin_tone", "💃🏻"),
  ("woman_dancing_medium-dark_skin_tone", "💃🏾"),
  ("woman_dancing_medium-light_skin_tone", "💃🏼"),
  ("woman_dancing_medium_skin_tone", "💃🏽"), ("woman_dark_skin_tone", "👩🏿"),
  ("woman_detective_dark_skin_tone", "🕵🏿‍♀️"),
  ("woman_detective_light_skin_tone", "🕵🏻‍♀️"),
  ("woman_detective_medium-dark_skin_tone", "🕵🏾‍♀️"),
  ("woman_detective_medium-light_skin_tone", "🕵🏼‍♀️"),
  ("woman_detective_medium_skin_tone", "🕵🏽‍♀️"),
  ("woman_elf_dark_skin_tone", "🧝🏿‍♀️"),
  ("woman_elf_light_skin_tone", "🧝🏻‍♀️"),
  ("woman_elf_medium-dark_skin_tone", "🧝🏾‍♀️"),
  ("woman_elf_medium-light_skin_tone", "🧝🏼‍♀️"),
  ("woman_elf_medium_skin_tone", "🧝🏽‍♀️"),
  ("woman_facepalming_dark_skin_tone", "🤦🏿‍♀️"),
  ("woman_facepalming_light_skin_tone", "🤦🏻‍♀️"),
  ("woman_facepalming_medium-dark_skin_tone", "🤦🏾‍♀️"),
  ("woman_facepalming_medium-light_skin_tone", "🤦🏼‍♀️"),
  ("woman_facepalming_medium_skin_tone", "🤦🏽‍♀️"),
  ("woman_factory_worker_dark_skin_tone", "👩🏿‍🏭"),
  ("woman_factory_worker_light_skin_tone", "👩🏻‍🏭"),
  ("woman_factory_worker_medium-dark_skin_tone", "👩🏾‍🏭"),
  ("woman_factory_worker_medium-light_skin_tone", "👩🏼‍🏭"),
  ("woman_factory_worker_medium_skin_tone", "👩🏽‍🏭"),
  ("woman_fairy_dark_skin_tone", "🧚🏿‍♀️"),
  ("woman_fairy_light_skin_tone", "🧚🏻‍♀️"),
  ("woman_fairy_medium-dark_skin_tone", "🧚🏾‍♀️"),
  ("woman_fairy_medium-light_skin_tone", "🧚🏼‍♀️"),
  ("woman_fairy_medium_skin_tone", "🧚🏽‍♀️"),
  ("woman_farmer_dark_skin_tone", "👩🏿‍🌾"),
  ("woman_farmer_light_skin_tone", "👩🏻‍🌾"),
  ("woman_farmer_medium-dark_skin_tone", "👩🏾‍🌾"),
  ("woman_farmer_medium-light_skin_tone", "👩🏼‍🌾"),
  ("woman_farmer_medium_skin_tone", "👩🏽‍🌾"),
  ("woman_firefighter_dark_skin_tone", "👩🏿‍🚒"),
  ("woman_firefighter_light_skin_tone", "👩🏻‍🚒"),
  ("woman_firefighter_medium-dark_skin_tone", "👩🏾‍🚒"),
  ("woman_firefighter_medium-light_skin_tone", "👩🏼‍🚒"),
  ("woman_firefighter_medium_skin_tone", "👩🏽‍🚒"),
  ("woman_frowning_dark_skin_tone", "🙍🏿‍♀️"),
  ("woman_frowning_light_skin_tone", "🙍🏻‍♀️"),
  ("woman_frowning_medium-dark_skin_tone", "🙍🏾‍♀️"),
  ("woman_frowning_medium-light_skin_tone", "🙍🏼‍♀️"),
  ("woman_frowning_medium_skin_tone", "🙍🏽‍♀️"),
  ("woman_gesturing_no_dark_skin_tone", "🙅🏿‍♀️"),
  ("woman_gesturing_no_light_skin_tone", "🙅🏻‍♀️"),
  ("woman_gesturing_no_medium-dark_skin_tone", "🙅🏾‍♀️"),
  ("woman_gesturing_no_medium-light_skin_tone", "🙅🏼‍♀️"),
  ("woman_gesturing_no_medium_skin_tone", "🙅🏽‍♀️"),
  ("woman_gesturing_ok_dark_skin_tone", "🙆🏿‍♀️"),
  ("woman_gesturing_ok_light_skin_tone", "🙆🏻‍♀️"),
  ("woman_gesturing_ok_medium-dark_skin_tone", "🙆🏾‍♀️"),
  ("woman_gesturing_ok_medium-light_skin_tone", "🙆🏼‍♀️"),
  ("woman_gesturing_ok_medium_skin_tone", "🙆🏽‍♀️"),
  ("woman_getting_haircut_dark_skin_tone", "💇🏿‍♀️"),
  ("woman_getting_haircut_light_skin_tone", "💇🏻‍♀️"),
  ("woman_getting_haircut_medium-dark_skin_tone", "💇🏾‍♀️"),
  ("woman_getting_haircut_medium-light_skin_tone", "💇🏼‍♀️"),
  ("woman_getting_haircut_medium_skin_tone", "💇🏽‍♀️"),
  ("woman_getting_massage_dark_skin_tone", "💆🏿‍♀️"),
  ("woman_getting_massage_light_skin_tone", "💆🏻‍♀️"),
  ("woman_getting_massage_medium-dark_skin_tone", "💆🏾‍♀️"),
  ("woman_getting_massage_medium-light_skin_tone", "💆🏼‍♀️"),
  ("woman_getting_massage_medium_skin_tone", "💆🏽‍♀️"),
  ("woman_golfing_dark_skin_tone", "🏌🏿‍♀️"),
  ("woman_golfing_light_skin_tone", "🏌🏻‍♀️"),
  ("woman_golfing_medium-dark_skin_tone", "🏌🏾‍♀️"),
  ("woman_golfing_medium-light_skin_tone", "🏌🏼‍♀️"),
  ("woman_golfing_medium_skin_tone", "🏌🏽‍♀️"),
  ("woman_guard_dark_skin_tone", "💂🏿‍♀️"),
  ("woman_guard_light_skin_tone", "💂🏻‍♀️"),
  ("woman_guard_medium-dark_skin_tone", "💂🏾‍♀️"),
  ("woman_guard_medium-light_skin_tone", "💂🏼‍♀️"),
  ("woman_guard_medium_skin_tone", "💂🏽‍♀️"),
  ("woman_health_worker_dark_skin_tone", "👩🏿‍⚕️"),
  ("woman_health_worker_light_skin_tone", "👩🏻‍⚕️"),
  ("woman_health_worker_medium-dark_skin_tone", "👩🏾‍⚕️"),
  ("woman_health_worker_medium-light_skin_tone", "👩🏼‍⚕️"),
  ("woman_health_worker_medium_skin_tone", "👩🏽‍⚕️"),
  ("woman_in_lotus_position_dark_skin_tone", "🧘🏿‍♀️"),
  ("woman_in_lotus_position_light_skin_tone", "🧘🏻‍♀️"),
  ("woman_in_lotus_position_medium-dark_skin_tone", "🧘🏾‍♀️"),
  ("woman_in_lotus_position_medium-light_skin_tone", "🧘🏼‍♀️"),
  ("woman_in_lotus_position_medium_skin_tone", "🧘🏽‍♀️"),
  ("woman_in_steamy_room_dark_skin_tone", "🧖🏿‍♀️"),
  ("woman_in_steamy_room_light_skin_tone", "🧖🏻‍♀️"),
  ("woman_in_steamy_room_medium-dark_skin_tone", "🧖🏾‍♀️"),
  ("woman_in_steamy_room_medium-light_skin_tone", "🧖🏼‍♀️"),
  ("woman_in_steamy_room_medium_skin_tone", "🧖🏽‍♀️"),
  ("woman_judge_dark_skin_tone", "👩🏿‍⚖️"),
  ("woman_judge_light_skin_tone", "👩🏻‍⚖️"),
  ("woman_judge_medium-dark_skin_tone", "👩🏾‍⚖️"),
  ("woman_judge_medium-light_skin_tone", "👩🏼‍⚖️"),
  ("woman_judge_medium_skin_tone", "👩🏽‍⚖️"),
  ("woman_juggling_dark_skin_tone", "🤹🏿‍♀️"),
  ("woman_juggling_light_skin_tone", "🤹🏻‍♀️"),
  ("woman_juggling_medium-dark_skin_tone", "🤹🏾‍♀️"),
  ("woman_juggling_medium-light_skin_tone", "🤹🏼‍♀️"),
  ("woman_juggling_medium_skin_tone", "🤹🏽‍♀️"),
  ("woman_lifting_weights_dark_skin_tone", "🏋🏿‍♀️"),
  ("woman_lifting_weights_light_skin_tone", "🏋🏻‍♀️"),
  ("woman_lifting_weights_medium-dark_skin_tone", "🏋🏾‍♀️"),
  ("woman_lifting_weights_medium-light_skin_tone", "🏋🏼‍♀️"),
  ("woman_lifting_weights_medium_skin_tone", "🏋🏽‍♀️"),
  ("woman_light_skin_tone", "👩🏻"), ("woman_mage_dark_skin_tone", "🧙🏿‍♀️"),
  ("woman_mage_light_skin_tone", "🧙🏻‍♀️"),
  ("woman_mage_medium-dark_skin_tone", "🧙🏾‍♀️"),
  ("woman_mage_medium-light_skin_tone", "🧙🏼‍♀️"),
  ("woman_mage_medium_skin_tone", "🧙🏽‍♀️"),
  ("woman_mechanic_dark_skin_tone", "👩🏿‍🔧"),
  ("woman_mechanic_light_skin_tone", "👩🏻‍🔧"),
  ("woman_mechanic_medium-dark_skin_tone", "👩🏾‍🔧"),
  ("woman_mechanic_medium-light_skin_tone", "👩🏼‍🔧"),
  ("woman_mechanic_medium_skin_tone", "👩🏽‍🔧"),
  ("woman_medium-dark_skin_tone", "👩🏾"),
  ("woman_medium-light_skin_tone", "👩🏼"), ("woman_medium_skin_tone", "👩🏽"),
  ("woman_mountain_biking_dark_skin_tone", "🚵🏿‍♀️"),
  ("woman_mountain_biking_light_skin_tone", "🚵🏻‍♀️"),
  ("woman_mountain_biking_medium-dark_skin_tone", "🚵🏾‍♀️"),
  ("woman_mountain_biking_medium-light_skin_tone", "🚵🏼‍♀️"),
  ("woman_mountain_biking_medium_skin_tone", "🚵🏽‍♀️"),
  ("woman_office_worker_dark_skin_tone", "👩🏿‍💼"),
  ("woman_office_worker_light_skin_tone", "👩🏻‍💼"),
  ("woman_office_worker_medium-dark_skin_tone", "👩🏾‍💼"),
  ("woman_office_worker_medium-light_skin_tone", "👩🏼‍💼"),
  ("woman_office_worker_medium_skin_tone", "👩🏽‍💼"),
  ("woman_pilot_dark_skin_tone", "👩🏿‍✈️"),
  ("woman_pilot_light_skin_tone", "👩🏻‍✈️"),
  ("woman_pilot_medium-dark_skin_tone", "👩🏾‍✈️"),
  ("woman_pilot_medium-light_skin_tone", "👩🏼‍✈️"),
  ("woman_pilot_medium_skin_tone", "👩🏽‍✈️"),
  ("woman_playing_handball_dark_skin_tone", "🤾🏿‍♀️"),
  ("woman_playing_handball_light_skin_tone", "🤾🏻‍♀️"),
  ("woman_playing_handball_medium-dark_skin_tone", "🤾🏾‍♀️"),
  ("woman_playing_handball_medium-light_skin_tone", "🤾🏼‍♀️"),
  ("woman_playing_handball_medium_skin_tone", "🤾🏽‍♀️"),
  ("woman_playing_water_polo_dark_skin_tone", "🤽🏿‍♀️"),
  ("woman_playing_water_polo_light_skin_tone", "🤽🏻‍♀️"),
  ("woman_playing_water_polo_medium-dark_skin_tone", "🤽🏾‍♀️"),
  ("woman_playing_water_polo_medium-light_skin_tone", "🤽🏼‍♀️"),
  ("woman_playing_water_polo_medium_skin_tone", "🤽🏽‍♀️"),
  ("woman_police_officer_dark_skin_tone", "👮🏿‍♀️"),
  ("woman_police_officer_light_skin_tone", "👮🏻‍♀️"),
  ("woman_police_officer_medium-dark_skin_tone", "👮🏾‍♀️"),
  ("woman_police_officer_medium-light_skin_tone", "👮🏼‍♀️"),
  ("woman_police_officer_medium_skin_tone", "👮🏽‍♀️"),
  ("woman_pouting_dark_skin_tone", "🙎🏿‍♀️"),
  ("woman_pouting_light_skin_tone", "🙎🏻‍♀️"),
  ("woman_pouting_medium-dark_skin_tone", "🙎🏾‍♀️"),
  ("woman_pouting_medium-light_skin_tone", "🙎🏼‍♀️"),
  ("woman_pouting_medium_skin_tone", "🙎🏽‍♀️"),
  ("woman_raising_hand_dark_skin_tone", "🙋🏿‍♀️"),
  ("woman_raising_hand_light_skin_tone", "🙋🏻‍♀️"),
  ("woman_raising_hand_medium-dark_skin_tone", "🙋🏾‍♀️"),
  ("woman_raising_hand_medium-light_skin_tone", "🙋🏼‍♀️"),
  ("woman_raising_hand_medium_skin_tone", "🙋🏽‍♀️"),
  ("woman_rowing_boat_dark_skin_tone", "🚣🏿‍♀️"),
  ("woman_rowing_boat_light_skin_tone", "🚣🏻‍♀️"),
  ("woman_rowing_boat_medium-dark_skin_tone", "🚣🏾‍♀️"),
  ("woman_rowing_boat_medium-light_skin_tone", "🚣🏼‍♀️"),
  ("woman_rowing_boat_medium_skin_tone", "🚣🏽‍♀️"),
  ("woman_running_dark_skin_tone", "🏃🏿‍♀️"),
  ("woman_running_light_skin_tone", "🏃🏻‍♀️"),
  ("woman_running_medium-dark_skin_tone", "🏃🏾‍♀️"),
  ("woman_running_medium-light_skin_tone", "🏃🏼‍♀️"),
  ("woman_running_medium_skin_tone", "🏃🏽‍♀️"),
  ("woman_scientist_dark_skin_tone", "👩🏿‍🔬"),
  ("woman_scientist_light_skin_tone", "👩🏻‍🔬"),
  ("woman_scientist_medium-dark_skin_tone", "👩🏾‍🔬"),
  ("woman_scientist_medium-light_skin_tone", "👩🏼‍🔬"),
  ("woman_scientist_medium_skin_tone", "👩🏽‍🔬"),
  ("woman_shrugging_dark_skin_tone", "🤷🏿‍♀️"),
  ("woman_shrugging_light_skin_tone", "🤷🏻‍♀️"),
  ("woman_shrugging_medium-dark_skin_tone", "🤷🏾‍♀️"),
  ("woman_shrugging_medium-light_skin_tone", "🤷🏼‍♀️"),
  ("woman_shrugging_medium_skin_tone", "🤷🏽‍♀️"),
  ("woman_singer_dark_skin_tone", "👩🏿‍🎤"),
  ("woman_singer_light_skin_tone", "👩🏻‍🎤"),
  ("woman_singer_medium-dark_skin_tone", "👩🏾‍🎤"),
  ("woman_singer_medium-light_skin_tone", "👩🏼‍🎤"),
  ("woman_singer_medium_skin_tone", "👩🏽‍🎤"),
  ("woman_student_dark_skin_tone", "👩🏿‍🎓"),
  ("woman_student_light_skin_tone", "👩🏻‍🎓"),
  ("woman_student_medium-dark_skin_tone", "👩🏾‍🎓"),
  ("woman_student_medium-light_skin_tone", "👩🏼‍🎓"),
  ("woman_student_medium_skin_tone", "👩🏽‍🎓"),
  ("woman_surfing_dark_skin_tone", "🏄🏿‍♀️"),
  ("woman_surfing_light_skin_tone", "🏄🏻‍♀️"),
  ("woman_surfing_medium-dark_skin_tone", "🏄🏾‍♀️"),
  ("woman_surfing_medium-light_skin_tone", "🏄🏼‍♀️"),
  ("woman_surfing_medium_skin_tone", "🏄🏽‍♀️"),
  ("woman_swimming_dark_skin_tone", "🏊🏿‍♀️"),
  ("woman_swimming_light_skin_tone", "🏊🏻‍♀️"),
  ("woman_swimming_medium-dark_skin_tone", "🏊🏾‍♀️"),
  ("woman_swimming_medium-light_skin_tone", "🏊🏼‍♀️"),
  ("woman_swimming_medium_skin_tone", "🏊🏽‍♀️"),
  ("woman_teacher_dark_skin_tone", "👩🏿‍🏫"),
  ("woman_teacher_light_skin_tone", "👩🏻‍🏫"),
  ("woman_teacher_medium-dark_skin_tone", "👩🏾‍🏫"),
  ("woman_teacher_medium-light_skin_tone", "👩🏼‍🏫"),
  ("woman_teacher_medium_skin_tone", "👩🏽‍🏫"),
  ("woman_technologist_dark_skin_tone", "👩🏿‍💻"),
  ("woman_technologist_light_skin_tone", "👩🏻‍💻"),
  ("woman_technologist_medium-dark_skin_tone", "👩🏾‍💻"),
  ("woman_technologist_medium-light_skin_tone", "👩🏼‍💻"),
  ("woman_technologist_medium_skin_tone", "👩🏽‍💻"),
  ("woman_tipping_hand_dark_skin_tone", "💁🏿‍♀️"),
  ("woman_tipping_hand_light_skin_tone", "💁🏻‍♀️"),
  ("woman_tipping_hand_medium-dark_skin_tone", "💁🏾‍♀️"),
  ("woman_tipping_hand_medium-light_skin_tone", "💁🏼‍♀️"),
  ("woman_tipping_hand_medium_skin_tone", "💁🏽‍♀️"),
  ("woman_vampire_dark_skin_tone", "🧛🏿‍♀️"),
  ("woman_vampire_light_skin_tone", "🧛🏻‍♀️"),
  ("woman_vampire_medium-dark_skin_tone", "🧛🏾‍♀️"),
  ("woman_vampire_medium-light_skin_tone", "🧛🏼‍♀️"),
  ("woman_vampire_medium_skin_tone", "🧛🏽‍♀️"),
  ("woman_walking_dark_skin_tone", "🚶🏿‍♀️"),
  ("woman_walking_light_skin_tone", "🚶🏻‍♀️"),
  ("woman_walking_medium-dark_skin_tone", "🚶🏾‍♀️"),
  ("woman_walking_medium-light_skin_tone", "🚶🏼‍♀️"),
  ("woman_walking_medium_skin_tone", "🚶🏽‍♀️"),
  ("woman_wearing_turban_dark_skin_tone", "👳🏿‍♀️"),
  ("woman_wearing_turban_light_skin_tone", "👳🏻‍♀️"),
  ("woman_wearing_turban_medium-dark_skin_tone", "👳🏾‍♀️"),
  ("woman_wearing_turban_medium-light_skin_tone", "👳🏼‍♀️"),
  ("woman_wearing_turban_medium_skin_tone", "👳🏽‍♀️"),
  ("woman_with_headscarf_dark_skin_tone", "🧕🏿"),
  ("woman_with_headscarf_light_skin_tone", "🧕🏻"),
  ("woman_with_headscarf_medium-dark_skin_tone", "🧕🏾"),
  ("woman_with_headscarf_medium-light_skin_tone", "🧕🏼"),
  ("woman_with_headscarf_medium_skin_tone", "🧕🏽"),
  ("writing_hand_dark_skin_tone", "✍🏿"),
  ("writing_hand_light_skin_tone", "✍🏻"),
  ("writing_hand_medium-dark_skin_tone", "✍🏾"),
  ("writing_hand_medium-light_skin_tone", "✍🏼"),
  ("writing_hand_medium_skin_tone", "✍🏽")]

def toned : List (String × String) :=
  tonedToL ++ tonedToM ++ tonedToZ

end Chip8.Text.Emoji

/-!
# Flags by name

The flags of countries and territories under their names. A flag is a pair of
regional indicators.
-/

namespace Chip8.Text.Emoji

def flags : List (String × String) := [
  ("afghanistan", "🇦🇫"), ("albania", "🇦🇱"), ("algeria", "🇩🇿"),
  ("american_samoa", "🇦🇸"), ("andorra", "🇦🇩"), ("angola", "🇦🇴"),
  ("anguilla", "🇦🇮"), ("antarctica", "🇦🇶"), ("antigua_&_barbuda", "🇦🇬"),
  ("argentina", "🇦🇷"), ("armenia", "🇦🇲"), ("aruba", "🇦🇼"),
  ("ascension_island", "🇦🇨"), ("australia", "🇦🇺"), ("austria", "🇦🇹"),
  ("azerbaijan", "🇦🇿"), ("bahamas", "🇧🇸"), ("bahrain", "🇧🇭"),
  ("bangladesh", "🇧🇩"), ("barbados", "🇧🇧"), ("belarus", "🇧🇾"),
  ("belgium", "🇧🇪"), ("belize", "🇧🇿"), ("benin", "🇧🇯"), ("bermuda", "🇧🇲"),
  ("bhutan", "🇧🇹"), ("bolivia", "🇧🇴"), ("bosnia_&_herzegovina", "🇧🇦"),
  ("botswana", "🇧🇼"), ("bouvet_island", "🇧🇻"), ("brazil", "🇧🇷"),
  ("british_indian_ocean_territory", "🇮🇴"), ("british_virgin_islands", "🇻🇬"),
  ("brunei", "🇧🇳"), ("bulgaria", "🇧🇬"), ("burkina_faso", "🇧🇫"),
  ("burundi", "🇧🇮"), ("cambodia", "🇰🇭"), ("cameroon", "🇨🇲"), ("canada", "🇨🇦"),
  ("canary_islands", "🇮🇨"), ("cape_verde", "🇨🇻"),
  ("caribbean_netherlands", "🇧🇶"), ("cayman_islands", "🇰🇾"),
  ("central_african_republic", "🇨🇫"), ("ceuta_&_melilla", "🇪🇦"),
  ("chad", "🇹🇩"), ("chile", "🇨🇱"), ("china", "🇨🇳"), ("christmas_island", "🇨🇽"),
  ("clipperton_island", "🇨🇵"), ("cocos_(keeling)_islands", "🇨🇨"),
  ("colombia", "🇨🇴"), ("comoros", "🇰🇲"), ("congo_-_brazzaville", "🇨🇬"),
  ("congo_-_kinshasa", "🇨🇩"), ("cook_islands", "🇨🇰"), ("costa_rica", "🇨🇷"),
  ("croatia", "🇭🇷"), ("cuba", "🇨🇺"), ("curaçao", "🇨🇼"), ("cyprus", "🇨🇾"),
  ("czechia", "🇨🇿"), ("côte_d’ivoire", "🇨🇮"), ("denmark", "🇩🇰"),
  ("diego_garcia", "🇩🇬"), ("djibouti", "🇩🇯"), ("dominica", "🇩🇲"),
  ("dominican_republic", "🇩🇴"), ("ecuador", "🇪🇨"), ("egypt", "🇪🇬"),
  ("el_salvador", "🇸🇻"), ("equatorial_guinea", "🇬🇶"), ("eritrea", "🇪🇷"),
  ("estonia", "🇪🇪"), ("ethiopia", "🇪🇹"), ("european_union", "🇪🇺"),
  ("falkland_islands", "🇫🇰"), ("faroe_islands", "🇫🇴"), ("fiji", "🇫🇯"),
  ("finland", "🇫🇮"), ("flag_for_afghanistan", "🇦🇫"),
  ("flag_for_albania", "🇦🇱"), ("flag_for_algeria", "🇩🇿"),
  ("flag_for_american_samoa", "🇦🇸"), ("flag_for_andorra", "🇦🇩"),
  ("flag_for_angola", "🇦🇴"), ("flag_for_anguilla", "🇦🇮"),
  ("flag_for_antarctica", "🇦🇶"), ("flag_for_antigua_&_barbuda", "🇦🇬"),
  ("flag_for_argentina", "🇦🇷"), ("flag_for_armenia", "🇦🇲"),
  ("flag_for_aruba", "🇦🇼"), ("flag_for_ascension_island", "🇦🇨"),
  ("flag_for_australia", "🇦🇺"), ("flag_for_austria", "🇦🇹"),
  ("flag_for_azerbaijan", "🇦🇿"), ("flag_for_bahamas", "🇧🇸"),
  ("flag_for_bahrain", "🇧🇭"), ("flag_for_bangladesh", "🇧🇩"),
  ("flag_for_barbados", "🇧🇧"), ("flag_for_belarus", "🇧🇾"),
  ("flag_for_belgium", "🇧🇪"), ("flag_for_belize", "🇧🇿"),
  ("flag_for_benin", "🇧🇯"), ("flag_for_bermuda", "🇧🇲"),
  ("flag_for_bhutan", "🇧🇹"), ("flag_for_bolivia", "🇧🇴"),
  ("flag_for_bosnia_&_herzegovina", "🇧🇦"), ("flag_for_botswana", "🇧🇼"),
  ("flag_for_bouvet_island", "🇧🇻"), ("flag_for_brazil", "🇧🇷"),
  ("flag_for_british_indian_ocean_territory", "🇮🇴"),
  ("flag_for_british_virgin_islands", "🇻🇬"), ("flag_for_brunei", "🇧🇳"),
  ("flag_for_bulgaria", "🇧🇬"), ("flag_for_burkina_faso", "🇧🇫"),
  ("flag_for_burundi", "🇧🇮"), ("flag_for_cambodia", "🇰🇭"),
  ("flag_for_cameroon", "🇨🇲"), ("flag_for_canada", "🇨🇦"),
  ("flag_for_canary_islands", "🇮🇨"), ("flag_for_cape_verde", "🇨🇻"),
  ("flag_for_caribbean_netherlands", "🇧🇶"), ("flag_for_cayman_islands", "🇰🇾"),
  ("flag_for_central_african_republic", "🇨🇫"),
  ("flag_for_ceuta_&_melilla", "🇪🇦"), ("flag_for_chad", "🇹🇩"),
  ("flag_for_chile", "🇨🇱"), ("flag_for_china", "🇨🇳"),
  ("flag_for_christmas_island", "🇨🇽"), ("flag_for_clipperton_island", "🇨🇵"),
  ("flag_for_cocos__islands", "🇨🇨"), ("flag_for_colombia", "🇨🇴"),
  ("flag_for_comoros", "🇰🇲"), ("flag_for_congo____brazzaville", "🇨🇬"),
  ("flag_for_congo____kinshasa", "🇨🇩"), ("flag_for_cook_islands", "🇨🇰"),
  ("flag_for_costa_rica", "🇨🇷"), ("flag_for_croatia", "🇭🇷"),
  ("flag_for_cuba", "🇨🇺"), ("flag_for_curaçao", "🇨🇼"),
  ("flag_for_cyprus", "🇨🇾"), ("flag_for_czech_republic", "🇨🇿"),
  ("flag_for_côte_d’ivoire", "🇨🇮"), ("flag_for_denmark", "🇩🇰"),
  ("flag_for_diego_garcia", "🇩🇬"), ("flag_for_djibouti", "🇩🇯"),
  ("flag_for_dominica", "🇩🇲"), ("flag_for_dominican_republic", "🇩🇴"),
  ("flag_for_ecuador", "🇪🇨"), ("flag_for_egypt", "🇪🇬"),
  ("flag_for_el_salvador", "🇸🇻"), ("flag_for_equatorial_guinea", "🇬🇶"),
  ("flag_for_eritrea", "🇪🇷"), ("flag_for_estonia", "🇪🇪"),
  ("flag_for_ethiopia", "🇪🇹"), ("flag_for_european_union", "🇪🇺"),
  ("flag_for_falkland_islands", "🇫🇰"), ("flag_for_faroe_islands", "🇫🇴"),
  ("flag_for_fiji", "🇫🇯"), ("flag_for_finland", "🇫🇮"),
  ("flag_for_france", "🇫🇷"), ("flag_for_french_guiana", "🇬🇫"),
  ("flag_for_french_polynesia", "🇵🇫"),
  ("flag_for_french_southern_territories", "🇹🇫"), ("flag_for_gabon", "🇬🇦"),
  ("flag_for_gambia", "🇬🇲"), ("flag_for_georgia", "🇬🇪"),
  ("flag_for_germany", "🇩🇪"), ("flag_for_ghana", "🇬🇭"),
  ("flag_for_gibraltar", "🇬🇮"), ("flag_for_greece", "🇬🇷"),
  ("flag_for_greenland", "🇬🇱"), ("flag_for_grenada", "🇬🇩"),
  ("flag_for_guadeloupe", "🇬🇵"), ("flag_for_guam", "🇬🇺"),
  ("flag_for_guatemala", "🇬🇹"), ("flag_for_guernsey", "🇬🇬"),
  ("flag_for_guinea", "🇬🇳"), ("flag_for_guinea__bissau", "🇬🇼"),
  ("flag_for_guyana", "🇬🇾"), ("flag_for_haiti", "🇭🇹"),
  ("flag_for_heard_&_mcdonald_islands", "🇭🇲"), ("flag_for_honduras", "🇭🇳"),
  ("flag_for_hong_kong", "🇭🇰"), ("flag_for_hungary", "🇭🇺"),
  ("flag_for_iceland", "🇮🇸"), ("flag_for_india", "🇮🇳"),
  ("flag_for_indonesia", "🇮🇩"), ("flag_for_iran", "🇮🇷"),
  ("flag_for_iraq", "🇮🇶"), ("flag_for_ireland", "🇮🇪"),
  ("flag_for_isle_of_man", "🇮🇲"), ("flag_for_israel", "🇮🇱"),
  ("flag_for_italy", "🇮🇹"), ("flag_for_jamaica", "🇯🇲"),
  ("flag_for_japan", "🇯🇵"), ("flag_for_jersey", "🇯🇪"),
  ("flag_for_jordan", "🇯🇴"), ("flag_for_kazakhstan", "🇰🇿"),
  ("flag_for_kenya", "🇰🇪"), ("flag_for_kiribati", "🇰🇮"),
  ("flag_for_kosovo", "🇽🇰"), ("flag_for_kuwait", "🇰🇼"),
  ("flag_for_kyrgyzstan", "🇰🇬"), ("flag_for_laos", "🇱🇦"),
  ("flag_for_latvia", "🇱🇻"), ("flag_for_lebanon", "🇱🇧"),
  ("flag_for_lesotho", "🇱🇸"), ("flag_for_liberia", "🇱🇷"),
  ("flag_for_libya", "🇱🇾"), ("flag_for_liechtenstein", "🇱🇮"),
  ("flag_for_lithuania", "🇱🇹"), ("flag_for_luxembourg", "🇱🇺"),
  ("flag_for_macau", "🇲🇴"), ("flag_for_macedonia", "🇲🇰"),
  ("flag_for_madagascar", "🇲🇬"), ("flag_for_malawi", "🇲🇼"),
  ("flag_for_malaysia", "🇲🇾"), ("flag_for_maldives", "🇲🇻"),
  ("flag_for_mali", "🇲🇱"), ("flag_for_malta", "🇲🇹"),
  ("flag_for_marshall_islands", "🇲🇭"), ("flag_for_martinique", "🇲🇶"),
  ("flag_for_mauritania", "🇲🇷"), ("flag_for_mauritius", "🇲🇺"),
  ("flag_for_mayotte", "🇾🇹"), ("flag_for_mexico", "🇲🇽"),
  ("flag_for_micronesia", "🇫🇲"), ("flag_for_moldova", "🇲🇩"),
  ("flag_for_monaco", "🇲🇨"), ("flag_for_mongolia", "🇲🇳"),
  ("flag_for_montenegro", "🇲🇪"), ("flag_for_montserrat", "🇲🇸"),
  ("flag_for_morocco", "🇲🇦"), ("flag_for_mozambique", "🇲🇿"),
  ("flag_for_myanmar", "🇲🇲"), ("flag_for_namibia", "🇳🇦"),
  ("flag_for_nauru", "🇳🇷"), ("flag_for_nepal", "🇳🇵"),
  ("flag_for_netherlands", "🇳🇱"), ("flag_for_new_caledonia", "🇳🇨"),
  ("flag_for_new_zealand", "🇳🇿"), ("flag_for_nicaragua", "🇳🇮"),
  ("flag_for_niger", "🇳🇪"), ("flag_for_nigeria", "🇳🇬"),
  ("flag_for_niue", "🇳🇺"), ("flag_for_norfolk_island", "🇳🇫"),
  ("flag_for_north_korea", "🇰🇵"), ("flag_for_northern_mariana_islands", "🇲🇵"),
  ("flag_for_norway", "🇳🇴"), ("flag_for_oman", "🇴🇲"),
  ("flag_for_pakistan", "🇵🇰"), ("flag_for_palau", "🇵🇼"),
  ("flag_for_palestinian_territories", "🇵🇸"), ("flag_for_panama", "🇵🇦"),
  ("flag_for_papua_new_guinea", "🇵🇬"), ("flag_for_paraguay", "🇵🇾"),
  ("flag_for_peru", "🇵🇪"), ("flag_for_philippines", "🇵🇭"),
  ("flag_for_pitcairn_islands", "🇵🇳"), ("flag_for_poland", "🇵🇱"),
  ("flag_for_portugal", "🇵🇹"), ("flag_for_puerto_rico", "🇵🇷"),
  ("flag_for_qatar", "🇶🇦"), ("flag_for_romania", "🇷🇴"),
  ("flag_for_russia", "🇷🇺"), ("flag_for_rwanda", "🇷🇼"),
  ("flag_for_réunion", "🇷🇪"), ("flag_for_samoa", "🇼🇸"),
  ("flag_for_san_marino", "🇸🇲"), ("flag_for_saudi_arabia", "🇸🇦"),
  ("flag_for_senegal", "🇸🇳"), ("flag_for_serbia", "🇷🇸"),
  ("flag_for_seychelles", "🇸🇨"), ("flag_for_sierra_leone", "🇸🇱"),
  ("flag_for_singapore", "🇸🇬"), ("flag_for_sint_maarten", "🇸🇽"),
  ("flag_for_slovakia", "🇸🇰"), ("flag_for_slovenia", "🇸🇮"),
  ("flag_for_solomon_islands", "🇸🇧"), ("flag_for_somalia", "🇸🇴"),
  ("flag_for_south_africa", "🇿🇦"),
  ("flag_for_south_georgia_&_south_sandwich_islands", "🇬🇸"),
  ("flag_for_south_korea", "🇰🇷"), ("flag_for_south_sudan", "🇸🇸"),
  ("flag_for_spain", "🇪🇸"), ("flag_for_sri_lanka", "🇱🇰"),
  ("flag_for_st._barthélemy", "🇧🇱"), ("flag_for_st._helena", "🇸🇭"),
  ("flag_for_st._kitts_&_nevis", "🇰🇳"), ("flag_for_st._lucia", "🇱🇨"),
  ("flag_for_st._martin", "🇲🇫"), ("flag_for_st._pierre_&_miquelon", "🇵🇲"),
  ("flag_for_st._vincent_&_grenadines", "🇻🇨"), ("flag_for_sudan", "🇸🇩"),
  ("flag_for_suriname", "🇸🇷"), ("flag_for_svalbard_&_jan_mayen", "🇸🇯"),
  ("flag_for_swaziland", "🇸🇿"), ("flag_for_sweden", "🇸🇪"),
  ("flag_for_switzerland", "🇨🇭"), ("flag_for_syria", "🇸🇾"),
  ("flag_for_são_tomé_&_príncipe", "🇸🇹"), ("flag_for_taiwan", "🇹🇼"),
  ("flag_for_tajikistan", "🇹🇯"), ("flag_for_tanzania", "🇹🇿"),
  ("flag_for_thailand", "🇹🇭"), ("flag_for_timor__leste", "🇹🇱"),
  ("flag_for_togo", "🇹🇬"), ("flag_for_tokelau", "🇹🇰"),
  ("flag_for_tonga", "🇹🇴"), ("flag_for_trinidad_&_tobago", "🇹🇹"),
  ("flag_for_tristan_da_cunha", "🇹🇦"), ("flag_for_tunisia", "🇹🇳"),
  ("flag_for_turkey", "🇹🇷"), ("flag_for_turkmenistan", "🇹🇲"),
  ("flag_for_turks_&_caicos_islands", "🇹🇨"), ("flag_for_tuvalu", "🇹🇻"),
  ("flag_for_u.s._outlying_islands", "🇺🇲"),
  ("flag_for_u.s._virgin_islands", "🇻🇮"), ("flag_for_uganda", "🇺🇬"),
  ("flag_for_ukraine", "🇺🇦"), ("flag_for_united_arab_emirates", "🇦🇪"),
  ("flag_for_united_kingdom", "🇬🇧"), ("flag_for_united_states", "🇺🇸"),
  ("flag_for_uruguay", "🇺🇾"), ("flag_for_uzbekistan", "🇺🇿"),
  ("flag_for_vanuatu", "🇻🇺"), ("flag_for_vatican_city", "🇻🇦"),
  ("flag_for_venezuela", "🇻🇪"), ("flag_for_vietnam", "🇻🇳"),
  ("flag_for_wallis_&_futuna", "🇼🇫"), ("flag_for_western_sahara", "🇪🇭"),
  ("flag_for_yemen", "🇾🇪"), ("flag_for_zambia", "🇿🇲"),
  ("flag_for_zimbabwe", "🇿🇼"), ("flag_for_åland_islands", "🇦🇽"),
  ("france", "🇫🇷"), ("french_guiana", "🇬🇫"), ("french_polynesia", "🇵🇫"),
  ("french_southern_territories", "🇹🇫"), ("gabon", "🇬🇦"), ("gambia", "🇬🇲"),
  ("georgia", "🇬🇪"), ("germany", "🇩🇪"), ("ghana", "🇬🇭"), ("gibraltar", "🇬🇮"),
  ("greece", "🇬🇷"), ("greenland", "🇬🇱"), ("grenada", "🇬🇩"),
  ("guadeloupe", "🇬🇵"), ("guam", "🇬🇺"), ("guatemala", "🇬🇹"),
  ("guernsey", "🇬🇬"), ("guinea", "🇬🇳"), ("guinea-bissau", "🇬🇼"),
  ("guyana", "🇬🇾"), ("haiti", "🇭🇹"), ("heard_&_mcdonald_islands", "🇭🇲"),
  ("honduras", "🇭🇳"), ("hong_kong_sar_china", "🇭🇰"), ("hungary", "🇭🇺"),
  ("iceland", "🇮🇸"), ("india", "🇮🇳"), ("indonesia", "🇮🇩"), ("iran", "🇮🇷"),
  ("iraq", "🇮🇶"), ("ireland", "🇮🇪"), ("isle_of_man", "🇮🇲"), ("israel", "🇮🇱"),
  ("italy", "🇮🇹"), ("jamaica", "🇯🇲"), ("jersey", "🇯🇪"), ("jordan", "🇯🇴"),
  ("kazakhstan", "🇰🇿"), ("kenya", "🇰🇪"), ("kiribati", "🇰🇮"), ("kosovo", "🇽🇰"),
  ("kuwait", "🇰🇼"), ("kyrgyzstan", "🇰🇬"), ("laos", "🇱🇦"), ("latvia", "🇱🇻"),
  ("lebanon", "🇱🇧"), ("lesotho", "🇱🇸"), ("liberia", "🇱🇷"), ("libya", "🇱🇾"),
  ("liechtenstein", "🇱🇮"), ("lithuania", "🇱🇹"), ("luxembourg", "🇱🇺"),
  ("macau_sar_china", "🇲🇴"), ("macedonia", "🇲🇰"), ("madagascar", "🇲🇬"),
  ("malawi", "🇲🇼"), ("malaysia", "🇲🇾"), ("maldives", "🇲🇻"), ("mali", "🇲🇱"),
  ("malta", "🇲🇹"), ("marshall_islands", "🇲🇭"), ("martinique", "🇲🇶"),
  ("mauritania", "🇲🇷"), ("mauritius", "🇲🇺"), ("mayotte", "🇾🇹"),
  ("mexico", "🇲🇽"), ("micronesia", "🇫🇲"), ("moldova", "🇲🇩"), ("monaco", "🇲🇨"),
  ("mongolia", "🇲🇳"), ("montenegro", "🇲🇪"), ("montserrat", "🇲🇸"),
  ("morocco", "🇲🇦"), ("mozambique", "🇲🇿"), ("myanmar_(burma)", "🇲🇲"),
  ("namibia", "🇳🇦"), ("nauru", "🇳🇷"), ("nepal", "🇳🇵"), ("netherlands", "🇳🇱"),
  ("new_caledonia", "🇳🇨"), ("new_zealand", "🇳🇿"), ("nicaragua", "🇳🇮"),
  ("niger", "🇳🇪"), ("nigeria", "🇳🇬"), ("niue", "🇳🇺"), ("norfolk_island", "🇳🇫"),
  ("north_korea", "🇰🇵"), ("northern_mariana_islands", "🇲🇵"), ("norway", "🇳🇴"),
  ("oman", "🇴🇲"), ("pakistan", "🇵🇰"), ("palau", "🇵🇼"),
  ("palestinian_territories", "🇵🇸"), ("panama", "🇵🇦"),
  ("papua_new_guinea", "🇵🇬"), ("paraguay", "🇵🇾"), ("peru", "🇵🇪"),
  ("philippines", "🇵🇭"), ("pitcairn_islands", "🇵🇳"), ("poland", "🇵🇱"),
  ("portugal", "🇵🇹"), ("puerto_rico", "🇵🇷"), ("qatar", "🇶🇦"),
  ("romania", "🇷🇴"), ("russia", "🇷🇺"), ("rwanda", "🇷🇼"), ("réunion", "🇷🇪"),
  ("samoa", "🇼🇸"), ("san_marino", "🇸🇲"), ("saudi_arabia", "🇸🇦"),
  ("senegal", "🇸🇳"), ("serbia", "🇷🇸"), ("seychelles", "🇸🇨"),
  ("sierra_leone", "🇸🇱"), ("singapore", "🇸🇬"), ("sint_maarten", "🇸🇽"),
  ("slovakia", "🇸🇰"), ("slovenia", "🇸🇮"), ("solomon_islands", "🇸🇧"),
  ("somalia", "🇸🇴"), ("south_africa", "🇿🇦"),
  ("south_georgia_&_south_sandwich_islands", "🇬🇸"), ("south_korea", "🇰🇷"),
  ("south_sudan", "🇸🇸"), ("spain", "🇪🇸"), ("sri_lanka", "🇱🇰"),
  ("st._barthélemy", "🇧🇱"), ("st._helena", "🇸🇭"), ("st._kitts_&_nevis", "🇰🇳"),
  ("st._lucia", "🇱🇨"), ("st._martin", "🇲🇫"), ("st._pierre_&_miquelon", "🇵🇲"),
  ("st._vincent_&_grenadines", "🇻🇨"), ("sudan", "🇸🇩"), ("suriname", "🇸🇷"),
  ("svalbard_&_jan_mayen", "🇸🇯"), ("swaziland", "🇸🇿"), ("sweden", "🇸🇪"),
  ("switzerland", "🇨🇭"), ("syria", "🇸🇾"), ("são_tomé_&_príncipe", "🇸🇹"),
  ("taiwan", "🇹🇼"), ("tajikistan", "🇹🇯"), ("tanzania", "🇹🇿"),
  ("thailand", "🇹🇭"), ("timor-leste", "🇹🇱"), ("togo", "🇹🇬"), ("tokelau", "🇹🇰"),
  ("tonga", "🇹🇴"), ("trinidad_&_tobago", "🇹🇹"), ("tristan_da_cunha", "🇹🇦"),
  ("tunisia", "🇹🇳"), ("turkmenistan", "🇹🇲"), ("turks_&_caicos_islands", "🇹🇨"),
  ("tuvalu", "🇹🇻"), ("u.s._outlying_islands", "🇺🇲"),
  ("u.s._virgin_islands", "🇻🇮"), ("uganda", "🇺🇬"), ("ukraine", "🇺🇦"),
  ("united_arab_emirates", "🇦🇪"), ("united_kingdom", "🇬🇧"),
  ("united_nations", "🇺🇳"), ("united_states", "🇺🇸"), ("uruguay", "🇺🇾"),
  ("uzbekistan", "🇺🇿"), ("vanuatu", "🇻🇺"), ("vatican_city", "🇻🇦"),
  ("venezuela", "🇻🇪"), ("vietnam", "🇻🇳"), ("wallis_&_futuna", "🇼🇫"),
  ("western_sahara", "🇪🇭"), ("yemen", "🇾🇪"), ("zambia", "🇿🇲"),
  ("zimbabwe", "🇿🇼"), ("åland_islands", "🇦🇽")]

end Chip8.Text.Emoji

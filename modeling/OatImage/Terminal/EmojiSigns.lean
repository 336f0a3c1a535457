/-!
# Names of signs

Rows of the code points of an emoji and its names, apart from each other by semicolons: those
below U+1F400. A plus sign marks a name that may be followed by the words for a skin tone.
-/
namespace OatImage.Emoji

def signRows : List String := [
  "23-20E3 keycap_number_sign;23-FE0F-20E3 keycap_#;2A-20E3 keycap_asterisk;2A-FE0F-20E3 keycap_*",
  "30-20E3 keycap_digit_zero;30-FE0F-20E3 keycap_0 zero;31-20E3 keycap_digit_one",
  "31-FE0F-20E3 keycap_1 one;32-20E3 keycap_digit_two;32-FE0F-20E3 keycap_2 two",
  "33-20E3 keycap_digit_three;33-FE0F-20E3 keycap_3 three;34-20E3 keycap_digit_four",
  "34-FE0F-20E3 four keycap_4;35-20E3 keycap_digit_five;35-FE0F-20E3 five keycap_5",
  "36-20E3 keycap_digit_six;36-FE0F-20E3 keycap_6 six;37-20E3 keycap_digit_seven",
  "37-FE0F-20E3 keycap_7 seven;38-20E3 keycap_digit_eight;38-FE0F-20E3 eight keycap_8",
  "39-20E3 keycap_digit_nine;39-FE0F-20E3 keycap_9 nine;A9 copyright;AE registered",
  "203C bangbang double_exclamation_mark;2049 exclamation_question_mark interrobang",
  "2122 tm trade_mark;2139 information information_source;2194 left-right_arrow left_right_arrow",
  "2195 arrow_up_down up-down_arrow;2196 arrow_upper_left up-left_arrow",
  "2197 arrow_upper_right up-right_arrow;2198 arrow_lower_right down-right_arrow",
  "2199 arrow_lower_left down-left_arrow;21A9 leftwards_arrow_with_hook right_arrow_curving_left",
  "21AA arrow_right_hook left_arrow_curving_right;231A watch;231B hourglass hourglass_done",
  "2328 keyboard;2388 helm_symbol;23CF eject_button eject_symbol",
  "23E9 fast-forward_button fast_forward;23EA fast_reverse_button rewind",
  "23EB arrow_double_up fast_up_button;23EC arrow_double_down fast_down_button",
  "23ED black_right__pointing_double_triangle_with_vertical_bar next_track_button",
  "23EE black_left__pointing_double_triangle_with_vertical_bar last_track_button",
  "23EF black_right__pointing_triangle_with_double_vertical_bar play_or_pause_button",
  "23F0 alarm_clock;23F1 stopwatch;23F2 timer_clock",
  "23F3 hourglass_flowing_sand hourglass_not_done;23F8 double_vertical_bar pause_button",
  "23F9 black_square_for_stop stop_button;23FA black_circle_for_record record_button",
  "24C2 circled_m m;25AA black_small_square;25AB white_small_square",
  "25B6 arrow_forward play_button;25C0 arrow_backward reverse_button;25FB white_medium_square",
  "25FC black_medium_square;25FD white_medium-small_square white_medium_small_square",
  "25FE black_medium-small_square black_medium_small_square;2600 sun sunny;2601 cloud",
  "2602 umbrella;2603 snowman;2604 comet;260E phone telephone;2611 ballot_box_with_check",
  "2614 umbrella_with_rain_drops;2615 coffee hot_beverage;2618 shamrock",
  "261D index_pointing_up+ point_up;2620 skull_and_crossbones;2622 radioactive radioactive_sign",
  "2623 biohazard biohazard_sign;2626 orthodox_cross;262A star_and_crescent;262E peace_symbol",
  "262F yin_yang;2638 wheel_of_dharma;2639 frowning_face white_frowning_face",
  "263A relaxed smiling_face;2640 female_sign;2642 male_sign;2648 aries;2649 taurus;264A gemini",
  "264B cancer;264C leo;264D virgo;264E libra;264F scorpio scorpius;2650 sagittarius",
  "2651 capricorn;2652 aquarius;2653 pisces;265F chess_pawn;2660 spade_suit spades",
  "2663 club_suit clubs;2665 heart_suit hearts;2666 diamond_suit diamonds",
  "2668 hot_springs hotsprings;267B recycle recycling_symbol;267E infinity",
  "267F wheelchair wheelchair_symbol;2692 hammer_and_pick;2693 anchor;2694 crossed_swords",
  "2695 medical_symbol;2696 balance_scale scales;2697 alembic;2699 gear;269B atom_symbol",
  "269C fleur-de-lis fleur__de__lis;26A0 warning;26A1 high_voltage zap;26AA white_circle",
  "26AB black_circle;26B0 coffin;26B1 funeral_urn;26BD soccer soccer_ball;26BE baseball",
  "26C4 snowman_without_snow;26C5 partly_sunny sun_behind_cloud",
  "26C8 cloud_with_lightning_and_rain thunder_cloud_and_rain;26CE ophiuchus;26CF pick",
  "26D1 helmet_with_white_cross rescue_worker’s_helmet;26D3 chains;26D4 no_entry",
  "26E9 shinto_shrine;26EA church;26F0 mountain;26F1 umbrella_on_ground;26F2 fountain",
  "26F3 flag_in_hole golf;26F4 ferry;26F5 boat sailboat;26F7 skier;26F8 ice_skate",
  "26F9 person_bouncing_ball+ person_with_ball;26F9-FE0F-200D-2640-FE0F woman_bouncing_ball+",
  "26F9-FE0F-200D-2642-FE0F man_bouncing_ball+;26FA tent;26FD fuel_pump fuelpump;2702 scissors",
  "2705 white_check_mark white_heavy_check_mark;2708 airplane;2709 email envelope",
  "270A fist raised_fist+;270B hand raised_hand+;270C v victory_hand+;270D writing_hand+",
  "270F pencil2;2712 black_nib;2714 heavy_check_mark;2716 heavy_multiplication_x;271D latin_cross",
  "2721 star_of_david;2728 sparkles;2733 eight-spoked_asterisk eight_spoked_asterisk",
  "2734 eight-pointed_star eight_pointed_black_star;2744 snowflake;2747 sparkle;274C cross_mark x",
  "274E cross_mark_button negative_squared_cross_mark;2753 question question_mark",
  "2754 grey_question white_question_mark;2755 grey_exclamation white_exclamation_mark",
  "2757 exclamation exclamation_mark heavy_exclamation_mark",
  "2763 heavy_heart_exclamation heavy_heart_exclamation_mark_ornament;2764 heart red_heart",
  "2795 heavy_plus_sign;2796 heavy_minus_sign;2797 heavy_division_sign",
  "27A1 arrow_right right_arrow;27B0 curly_loop;27BF double_curly_loop loop",
  "2934 arrow_heading_up right_arrow_curving_up;2935 arrow_heading_down right_arrow_curving_down",
  "2B05 arrow_left left_arrow;2B06 arrow_up up_arrow;2B07 arrow_down down_arrow",
  "2B1B black_large_square;2B1C white_large_square;2B50 star white_medium_star",
  "2B55 heavy_large_circle o;3030 wavy_dash;303D part_alternation_mark",
  "3297 congratulations japanese_congratulations_button;3299 japanese_secret_button secret",
  "1F004 mahjong mahjong_red_dragon;1F0CF black_joker joker;1F170 a a_button_(blood_type)",
  "1F171 b b_button_(blood_type);1F17E o2 o_button_(blood_type);1F17F p_button parking",
  "1F18E ab ab_button_(blood_type);1F191 cl cl_button;1F192 cool cool_button",
  "1F193 free free_button;1F194 id id_button;1F195 new new_button;1F196 ng ng_button",
  "1F197 ok ok_button;1F198 sos sos_button;1F199 up up!_button;1F19A vs vs_button",
  "1F1E6 regional_indicator_a regional_indicator_symbol_letter_a",
  "1F1E7 regional_indicator_b regional_indicator_symbol_letter_b",
  "1F1E8 regional_indicator_c regional_indicator_symbol_letter_c",
  "1F1E9 regional_indicator_d regional_indicator_symbol_letter_d",
  "1F1EA regional_indicator_e regional_indicator_symbol_letter_e",
  "1F1EB regional_indicator_f regional_indicator_symbol_letter_f",
  "1F1EC regional_indicator_g regional_indicator_symbol_letter_g",
  "1F1ED regional_indicator_h regional_indicator_symbol_letter_h",
  "1F1EE regional_indicator_i regional_indicator_symbol_letter_i",
  "1F1EF regional_indicator_j regional_indicator_symbol_letter_j",
  "1F1F0 regional_indicator_k regional_indicator_symbol_letter_k",
  "1F1F1 regional_indicator_l regional_indicator_symbol_letter_l",
  "1F1F2 regional_indicator_m regional_indicator_symbol_letter_m",
  "1F1F3 regional_indicator_n regional_indicator_symbol_letter_n",
  "1F1F4 regional_indicator_o regional_indicator_symbol_letter_o",
  "1F1F5 regional_indicator_p regional_indicator_symbol_letter_p",
  "1F1F6 regional_indicator_q regional_indicator_symbol_letter_q",
  "1F1F7 regional_indicator_r regional_indicator_symbol_letter_r",
  "1F1F8 regional_indicator_s regional_indicator_symbol_letter_s",
  "1F1F9 regional_indicator_symbol_letter_t regional_indicator_t",
  "1F1FA regional_indicator_symbol_letter_u regional_indicator_u",
  "1F1FB regional_indicator_symbol_letter_v regional_indicator_v",
  "1F1FC regional_indicator_symbol_letter_w regional_indicator_w",
  "1F1FD regional_indicator_symbol_letter_x regional_indicator_x",
  "1F1FE regional_indicator_symbol_letter_y regional_indicator_y",
  "1F1FF regional_indicator_symbol_letter_z regional_indicator_z;1F201 japanese_here_button koko",
  "1F202 japanese_service_charge_button sa;1F21A japanese_free_of_charge_button u7121",
  "1F22F japanese_reserved_button u6307;1F232 japanese_prohibited_button u7981",
  "1F233 japanese_vacancy_button u7a7a;1F234 japanese_passing_grade_button u5408",
  "1F235 japanese_no_vacancy_button u6e80;1F236 japanese_not_free_of_charge_button u6709",
  "1F237 japanese_monthly_amount_button u6708;1F238 japanese_application_button u7533",
  "1F239 japanese_discount_button u5272;1F23A japanese_open_for_business_button u55b6",
  "1F250 ideograph_advantage japanese_bargain_button;1F251 accept japanese_acceptable_button",
  "1F300 cyclone;1F301 foggy;1F302 closed_umbrella;1F303 night_with_stars",
  "1F304 sunrise_over_mountains;1F305 sunrise;1F306 city_sunset cityscape_at_dusk",
  "1F307 city_sunrise sunset;1F308 rainbow;1F309 bridge_at_night;1F30A ocean water_wave",
  "1F30B volcano;1F30C milky_way;1F30D earth_africa globe_showing_europe-africa",
  "1F30E earth_americas globe_showing_americas;1F30F earth_asia globe_showing_asia-australia",
  "1F310 globe_with_meridians;1F311 new_moon;1F312 waxing_crescent_moon;1F313 first_quarter_moon",
  "1F314 moon waxing_gibbous_moon;1F315 full_moon;1F316 waning_gibbous_moon",
  "1F317 last_quarter_moon;1F318 waning_crescent_moon;1F319 crescent_moon",
  "1F31A new_moon_face new_moon_with_face",
  "1F31B first_quarter_moon_face first_quarter_moon_with_face",
  "1F31C last_quarter_moon_face last_quarter_moon_with_face",
  "1F31D full_moon_face full_moon_with_face;1F31E sun_with_face;1F31F glowing_star star2",
  "1F320 shooting_star stars;1F321 thermometer",
  "1F324 sun_behind_small_cloud white_sun_with_small_cloud",
  "1F325 sun_behind_large_cloud white_sun_behind_cloud",
  "1F326 sun_behind_rain_cloud white_sun_behind_cloud_with_rain;1F327 cloud_with_rain",
  "1F328 cloud_with_snow;1F329 cloud_with_lightning;1F32A cloud_with_tornado tornado;1F32B fog",
  "1F32C wind_blowing_face wind_face;1F32D hot_dog;1F32E taco;1F32F burrito;1F330 chestnut",
  "1F331 seedling;1F332 evergreen_tree;1F333 deciduous_tree;1F334 palm_tree;1F335 cactus",
  "1F336 hot_pepper;1F337 tulip;1F338 cherry_blossom;1F339 rose;1F33A hibiscus;1F33B sunflower",
  "1F33C blossom;1F33D corn ear_of_corn;1F33E ear_of_rice sheaf_of_rice;1F33F herb",
  "1F340 four_leaf_clover;1F341 maple_leaf;1F342 fallen_leaf;1F343 leaf_fluttering_in_wind leaves",
  "1F344 mushroom;1F345 tomato;1F346 eggplant;1F347 grapes;1F348 melon;1F349 watermelon",
  "1F34A tangerine;1F34B lemon;1F34C banana;1F34D pineapple;1F34E apple red_apple",
  "1F34F green_apple;1F350 pear;1F351 peach;1F352 cherries;1F353 strawberry;1F354 hamburger",
  "1F355 pizza;1F356 meat_on_bone;1F357 poultry_leg;1F358 rice_cracker;1F359 rice_ball",
  "1F35A cooked_rice rice;1F35B curry curry_rice;1F35C ramen steaming_bowl;1F35D spaghetti",
  "1F35E bread;1F35F french_fries fries;1F360 roasted_sweet_potato sweet_potato;1F361 dango",
  "1F362 oden;1F363 sushi;1F364 fried_shrimp;1F365 fish_cake fish_cake_with_swirl",
  "1F366 icecream soft_ice_cream;1F367 shaved_ice;1F368 ice_cream;1F369 doughnut;1F36A cookie",
  "1F36B chocolate_bar;1F36C candy;1F36D lollipop;1F36E custard;1F36F honey_pot",
  "1F370 cake shortcake;1F371 bento bento_box;1F372 pot_of_food stew;1F373 cooking egg",
  "1F374 fork_and_knife;1F375 tea teacup_without_handle;1F376 sake;1F377 wine_glass",
  "1F378 cocktail cocktail_glass;1F379 tropical_drink;1F37A beer beer_mug",
  "1F37B beers clinking_beer_mugs;1F37C baby_bottle;1F37D fork_and_knife_with_plate",
  "1F37E bottle_with_popping_cork;1F37F popcorn;1F380 ribbon;1F381 gift wrapped_gift",
  "1F382 birthday birthday_cake;1F383 jack-o-lantern jack_o_lantern;1F384 christmas_tree",
  "1F385 santa santa_claus+;1F386 fireworks;1F387 sparkler;1F388 balloon;1F389 party_popper tada",
  "1F38A confetti_ball;1F38B tanabata_tree;1F38C crossed_flags;1F38D bamboo pine_decoration",
  "1F38E dolls japanese_dolls;1F38F carp_streamer flags;1F390 wind_chime",
  "1F391 moon_viewing_ceremony rice_scene;1F392 school_backpack school_satchel",
  "1F393 graduation_cap mortar_board;1F396 military_medal;1F397 reminder_ribbon",
  "1F399 studio_microphone;1F39A level_slider;1F39B control_knobs;1F39E film_frames",
  "1F39F admission_tickets;1F3A0 carousel_horse;1F3A1 ferris_wheel;1F3A2 roller_coaster",
  "1F3A3 fishing_pole fishing_pole_and_fish;1F3A4 microphone;1F3A5 movie_camera;1F3A6 cinema",
  "1F3A7 headphone headphones;1F3A8 art artist_palette;1F3A9 top_hat tophat;1F3AA circus_tent",
  "1F3AB ticket;1F3AC clapper clapper_board;1F3AD performing_arts;1F3AE video_game",
  "1F3AF dart direct_hit;1F3B0 slot_machine;1F3B1 8ball pool_8_ball;1F3B2 game_die;1F3B3 bowling",
  "1F3B4 flower_playing_cards;1F3B5 musical_note;1F3B6 musical_notes notes;1F3B7 saxophone",
  "1F3B8 guitar;1F3B9 musical_keyboard;1F3BA trumpet;1F3BB violin;1F3BC musical_score",
  "1F3BD running_shirt running_shirt_with_sash;1F3BE tennis;1F3BF ski skis;1F3C0 basketball",
  "1F3C1 checkered_flag chequered_flag;1F3C2 snowboarder+;1F3C3 person_running+ runner running",
  "1F3C3-200D-2640-FE0F woman_running+;1F3C3-200D-2642-FE0F man_running+",
  "1F3C4 person_surfing+ surfer;1F3C4-200D-2640-FE0F woman_surfing+",
  "1F3C4-200D-2642-FE0F man_surfing+;1F3C5 sports_medal;1F3C6 trophy;1F3C7 horse_racing+",
  "1F3C8 american_football football;1F3C9 rugby_football;1F3CA person_swimming+ swimmer",
  "1F3CA-200D-2640-FE0F woman_swimming+;1F3CA-200D-2642-FE0F man_swimming+",
  "1F3CB person_lifting_weights+ weight_lifter;1F3CB-FE0F-200D-2640-FE0F woman_lifting_weights+",
  "1F3CB-FE0F-200D-2642-FE0F man_lifting_weights+;1F3CC golfer person_golfing+",
  "1F3CC-FE0F-200D-2640-FE0F woman_golfing+;1F3CC-FE0F-200D-2642-FE0F man_golfing+",
  "1F3CD motorcycle racing_motorcycle;1F3CE racing_car;1F3CF cricket_bat_and_ball cricket_game",
  "1F3D0 volleyball;1F3D1 field_hockey field_hockey_stick_and_ball",
  "1F3D2 ice_hockey ice_hockey_stick_and_puck;1F3D3 ping_pong table_tennis_paddle_and_ball",
  "1F3D4 snow-capped_mountain snow_capped_mountain;1F3D5 camping;1F3D6 beach_with_umbrella",
  "1F3D7 building_construction;1F3D8 house_buildings houses;1F3D9 cityscape",
  "1F3DA derelict_house derelict_house_building;1F3DB classical_building;1F3DC desert",
  "1F3DD desert_island;1F3DE national_park;1F3DF stadium;1F3E0 house;1F3E1 house_with_garden",
  "1F3E2 office office_building;1F3E3 japanese_post_office post_office;1F3E4 european_post_office",
  "1F3E5 hospital;1F3E6 bank;1F3E7 atm atm_sign;1F3E8 hotel;1F3E9 love_hotel",
  "1F3EA convenience_store;1F3EB school;1F3EC department_store;1F3ED factory",
  "1F3EE izakaya_lantern lantern red_paper_lantern;1F3EF japanese_castle",
  "1F3F0 castle european_castle;1F3F3 waving_white_flag white_flag",
  "1F3F3-FE0F-200D-1F308 rainbow_flag;1F3F4 black_flag waving_black_flag",
  "1F3F4-200D-2620-FE0F pirate_flag;1F3F4-E0067-E0062-E0065-E006E-E0067-E007F england",
  "1F3F4-E0067-E0062-E0073-E0063-E0074-E007F scotland",
  "1F3F4-E0067-E0062-E0077-E006C-E0073-E007F wales;1F3F5 rosette;1F3F7 label",
  "1F3F8 badminton badminton_racquet_and_shuttlecock;1F3F9 bow_and_arrow;1F3FA amphora",
  "1F3FB emoji_modifier_fitzpatrick_type__1__2 light_skin_tone",
  "1F3FC emoji_modifier_fitzpatrick_type__3 medium_light_skin_tone",
  "1F3FD emoji_modifier_fitzpatrick_type__4 medium_skin_tone",
  "1F3FE emoji_modifier_fitzpatrick_type__5 medium_dark_skin_tone",
  "1F3FF dark_skin_tone emoji_modifier_fitzpatrick_type__6"]

end OatImage.Emoji
